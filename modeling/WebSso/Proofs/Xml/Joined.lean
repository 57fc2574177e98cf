import WebSso.Proofs.Xml.Tag

/-!
# Content with its runs joined

The text of a document does not tell how its characters were added.  Runs of text that stand next to
each other look like one, and an empty run like none.  So two trees are told apart up to that:
`joined` puts neighbouring runs together and leaves the empty ones out.

## What is here

* `Content.prepend`, `Content.joined` and `Element.joined`, which join runs;
* `Content.ownText` and what joining leaves as it is: the text, the elements, the tag;
* `Content.leading` and `Content.afterLeading`, by which content is a run of text and then nothing
  or an element (`Content.StartsWithoutText`);
* `Content.Readable` and `Element.Readable`, the trees with readable tags.
-/

set_option autoImplicit false
namespace WebSso

/-! ## Joining -/

namespace Content

/-- Content with text put before it.  The text joins the run that is there; empty text is no
run. -/
def prepend (run : String) : Content → Content
  | text next rest => text (run ++ next) rest
  | done => if run = "" then done else text run done
  | element tag inner rest =>
      if run = "" then element tag inner rest else text run (element tag inner rest)

/-- The content with neighbouring runs of text joined and empty ones left out, everywhere. -/
def joined : Content → Content
  | done => done
  | text run rest => rest.joined.prepend run
  | element tag inner rest => element tag inner.joined rest.joined

@[simp] theorem prepend_empty (c : Content) : c.prepend "" = c := by
  cases c <;> simp [prepend]

theorem prepend_prepend (c : Content) (a b : String) :
    (c.prepend b).prepend a = c.prepend (a ++ b) := by
  cases c with
  | text next rest => simp [prepend, String.append_assoc]
  | done => by_cases hb : b = "" <;> simp [prepend, hb]
  | element tag inner rest => by_cases hb : b = "" <;> simp [prepend, hb]

end Content

/-- The element with neighbouring runs of text joined and empty ones left out, everywhere. -/
def Element.joined (e : Element) : Element := ⟨e.tag, e.content.joined⟩

/-! ## What joining leaves as it is -/

namespace Content

/-- The text that stands between the elements, all of it. -/
def ownText : Content → String
  | done => ""
  | text run rest => run ++ rest.ownText
  | element _ _ rest => rest.ownText

theorem ownText_prepend (c : Content) (run : String) :
    (c.prepend run).ownText = run ++ c.ownText := by
  cases c with
  | text next rest => simp [prepend, ownText, String.append_assoc]
  | done => by_cases hrun : run = "" <;> simp [prepend, ownText, hrun]
  | element tag inner rest => by_cases hrun : run = "" <;> simp [prepend, ownText, hrun]

theorem ownText_joined (c : Content) : c.joined.ownText = c.ownText := by
  induction c with
  | done => rfl
  | text run rest ih => rw [joined, ownText_prepend, ih, ownText]
  | element tag inner rest _ ih => exact ih

theorem elements_prepend (c : Content) (run : String) :
    (c.prepend run).elements = c.elements := by
  cases c with
  | text next rest => rfl
  | done => by_cases hrun : run = "" <;> simp [prepend, elements, hrun]
  | element tag inner rest => by_cases hrun : run = "" <;> simp [prepend, elements, hrun]

theorem elements_joined (c : Content) :
    c.joined.elements = c.elements.map Element.joined := by
  induction c with
  | done => rfl
  | text run rest ih => rw [joined, elements_prepend, ih, elements]
  | element tag inner rest _ ih => rw [joined, elements, ih, elements, List.map_cons]; rfl

end Content

/-! ## Text first -/

namespace Content

theorem eq_done {c : Content} (h : c.isDone = true) : c = done := by
  cases c with
  | done => rfl
  | text run rest => cases h
  | element tag inner rest => cases h

/-- The text that content begins with. -/
def leading : Content → String
  | text run rest => run ++ rest.leading
  | _ => ""

/-- What comes after the text that content begins with. -/
def afterLeading : Content → Content
  | text _ rest => rest.afterLeading
  | c => c

theorem write_leading (style : XmlStyle) (c : Content) :
    c.write style
      = c.leading.toList.flatMap style.inText ++ c.afterLeading.write style := by
  induction c with
  | done => simp [leading, afterLeading]
  | text run rest ih =>
    rw [write, ih, leading, afterLeading, String.toList_append, List.flatMap_append,
      List.append_assoc]
  | element tag inner rest => simp [leading, afterLeading]

theorem joined_leading (c : Content) : c.joined = c.afterLeading.joined.prepend c.leading := by
  induction c with
  | done => simp [leading, afterLeading]
  | text run rest ih => rw [joined, ih, prepend_prepend, leading, afterLeading]
  | element tag inner rest => simp [leading, afterLeading]

theorem afterLeading_cases (c : Content) :
    c.afterLeading = done ∨ ∃ tag inner rest, c.afterLeading = element tag inner rest := by
  induction c with
  | done => exact Or.inl rfl
  | text run rest ih => exact ih
  | element tag inner rest => exact Or.inr ⟨tag, inner, rest, rfl⟩

/-- Content that does not begin with a run of text. -/
def StartsWithoutText : Content → Prop
  | text _ _ => False
  | _ => True

theorem startsWithoutText_afterLeading (c : Content) : c.afterLeading.StartsWithoutText := by
  rcases c.afterLeading_cases with h | ⟨tag, inner, rest, h⟩ <;> rw [h] <;> trivial

end Content

/-! ## Readable trees -/

/-- Every tag is readable. -/
def Content.Readable : Content → Prop
  | done => True
  | text _ rest => rest.Readable
  | element tag inner rest => tag.Readable ∧ inner.Readable ∧ rest.Readable

theorem Content.Readable.afterLeading {c : Content} (h : c.Readable) :
    c.afterLeading.Readable := by
  induction c with
  | done => exact h
  | text run rest ih => exact ih h
  | element tag inner rest => exact h

/-- The tag of the element is readable, and those of all elements inside. -/
def Element.Readable (e : Element) : Prop := e.tag.Readable ∧ e.content.Readable

end WebSso
