import WebSso.Proofs.Xml.Build

/-!
# Nothing is lost in the text of an element

Whatever stands in the values and the runs of text of a tree with readable tags, the tree can be
recovered from its text, up to how the runs were put together.  In particular no value and no run of
text can imitate markup: an element whose text has another element, or another attribute, has it
itself.

The proof goes along one of the two trees.  Its runs are gathered until there is an element or the
end; the other tree is cut at the same place, since escaped text has no `<`.

## What is here

* `EndsContent`, the text that may come after content, and `Content.writeBody`, how an element goes
  on after the start of its tag;
* `Content.write_append_inj`, by which content is determined, behind a run of text and before what
  comes after it;
* `Element.joined_eq_of_write_eq` for any legible style, and `Element.joined_eq_of_toXml_eq` for
  messages.
-/

set_option autoImplicit false
namespace WebSso

/-! ## What comes after content -/

/-- Text that ends, or goes on with the end of an element. -/
def EndsContent (text : List Char) : Prop := text = [] ∨ ∃ rest, text = '<' :: '/' :: rest

theorem EndsContent.stopsAt {text : List Char} (h : EndsContent text) : StopsAt '<' text := by
  rcases h with rfl | ⟨rest, rfl⟩
  · exact stopsAt_nil '<'
  · exact stopsAt_cons '<' _

theorem endsContent_writeEnd (tag : Tag) (rest : List Char) :
    EndsContent (tag.writeEnd ++ rest) :=
  Or.inr ⟨_, rfl⟩

namespace Tag
variable {style : XmlStyle} {tag : Tag}

theorem stopsAt_writeStart (style : XmlStyle) (tag : Tag) (t : List Char) :
    StopsAt '<' (tag.writeStart style ++ t) := by
  rw [writeStart_eq]
  exact stopsAt_cons '<' _

/-- The start of an element is not taken for the end of one. -/
theorem Readable.not_endsContent (h : tag.Readable) (t : List Char) :
    ¬EndsContent (tag.writeStart style ++ t) := by
  obtain ⟨c, more, hname, hc⟩ := h.name.exists_head
  rw [writeStart_eq, hname]
  rintro (hend | ⟨rest, hend⟩)
  · cases hend
  · obtain rfl : c = '/' := (List.cons.inj (List.cons.inj hend).2).1
    cases hc

end Tag

/-! ## Content -/

namespace Content
variable {style : XmlStyle}

/-- How an element goes on after the start of its tag. -/
def writeBody (style : XmlStyle) (tag : Tag) (inner : Content) : List Char :=
  if inner.isDone then style.emptyEnd else '>' :: inner.write style ++ tag.writeEnd

theorem write_element (style : XmlStyle) (tag : Tag) (inner rest : Content) (t : List Char) :
    (element tag inner rest).write style ++ t
      = tag.writeStart style ++ (writeBody style tag inner ++ (rest.write style ++ t)) := by
  simp only [write, writeBody, List.append_assoc]

theorem endsTag_writeBody (style : XmlStyle) (tag : Tag) (inner : Content) (t : List Char) :
    EndsTag style (writeBody style tag inner ++ t) := by
  rw [writeBody]
  split
  · exact ⟨t, Or.inr rfl⟩
  · exact ⟨_, Or.inl rfl⟩

/-- Elements of one tag are determined by what comes after its start, if what is inside is
determined by its text. -/
theorem writeBody_append_inj (hs : style.Legible) {tag : Tag} {c d : Content} {t u : List Char}
    (hinner : ∀ r s, EndsContent r → EndsContent s →
      c.write style ++ r = d.write style ++ s → c.joined = d.joined ∧ r = s)
    (h : writeBody style tag c ++ t = writeBody style tag d ++ u) :
    c.joined = d.joined ∧ t = u := by
  have hopen (a b : List Char) : style.emptyEnd ++ a ≠ '>' :: b := by
    rcases hs.emptyEnd with hend | hend <;> simp [hend]
  rw [writeBody, writeBody] at h
  split at h <;> split at h
  · next hc hd => exact ⟨by rw [eq_done hc, eq_done hd], List.append_cancel_left h⟩
  · exact absurd h (hopen _ _)
  · exact absurd h.symm (hopen _ _)
  · rw [List.cons_append, List.cons_append, List.append_assoc, List.append_assoc] at h
    obtain ⟨hjoined, hend⟩ := hinner _ _ (endsContent_writeEnd tag t) (endsContent_writeEnd tag u)
      (List.cons.inj h).2
    exact ⟨hjoined, List.append_cancel_left hend⟩

theorem stopsAt_write {c : Content} (hc : c.StartsWithoutText) {r : List Char}
    (hr : EndsContent r) : StopsAt '<' (c.write style ++ r) := by
  cases c with
  | text run rest => exact hc.elim
  | done => exact hr.stopsAt
  | element tag inner rest =>
    rw [write_element]
    exact tag.stopsAt_writeStart style _

/-- The text that content begins with ends where the first element, or the end, is. -/
theorem leading_append_inj (hs : style.Legible) {c d : Content} (hc : c.StartsWithoutText)
    {run : String} {r s : List Char} (hr : EndsContent r) (hs' : EndsContent s)
    (h : run.toList.flatMap style.inText ++ (c.write style ++ r) = d.write style ++ s) :
    run = d.leading ∧ c.write style ++ r = d.afterLeading.write style ++ s := by
  rw [write_leading style d, List.append_assoc] at h
  exact hs.runs.text_append_inj (stopsAt_write hc hr)
    (stopsAt_write d.startsWithoutText_afterLeading hs') h

/-- **Content is determined by its text**, behind a run of text that was read before, and so is
where it ends. -/
theorem write_append_inj (hs : style.Legible) {c d : Content} (hc : c.Readable) (hd : d.Readable)
    (run : String) {r s : List Char} (hr : EndsContent r) (hs' : EndsContent s)
    (h : run.toList.flatMap style.inText ++ (c.write style ++ r) = d.write style ++ s) :
    c.joined.prepend run = d.joined ∧ r = s := by
  -- A run of `c` is added to what was read before, so only its end and its elements are compared
  -- with `d`, which is cut behind its own text each time.
  induction c generalizing d run r s with
  | text next rest ih =>
    rw [joined, prepend_prepend]
    refine ih hc hd (run ++ next) hr hs' ?_
    rw [String.toList_append, List.flatMap_append, List.append_assoc, ← h, write,
      List.append_assoc]
  | done =>
    obtain ⟨rfl, hafter⟩ := leading_append_inj hs (c := done) trivial hr hs' h
    rw [write, List.nil_append] at hafter
    rw [d.joined_leading]
    rcases d.afterLeading_cases with hdone | ⟨tag, inner, rest, helement⟩
    · rw [hdone] at hafter ⊢
      exact ⟨rfl, by simpa [write] using hafter⟩
    · have htag : tag.Readable := (helement ▸ hd.afterLeading).1
      rw [helement, write_element] at hafter
      exact absurd (hafter ▸ hr) (htag.not_endsContent _)
  | element tag inner rest ihinner ihrest =>
    obtain ⟨htag, hinner, hrest⟩ := hc
    obtain ⟨rfl, hafter⟩ := leading_append_inj hs (c := element tag inner rest) trivial hr hs' h
    rw [d.joined_leading]
    rcases d.afterLeading_cases with hdone | ⟨tag', inner', rest', helement⟩
    · rw [hdone, write_element, write, List.nil_append] at hafter
      exact absurd (hafter ▸ hs') (htag.not_endsContent _)
    · obtain ⟨htag', hinner', hrest'⟩ := helement ▸ hd.afterLeading
      rw [helement, write_element, write_element] at hafter
      obtain ⟨rfl, hbody⟩ := htag.writeStart_append_inj hs htag' (endsTag_writeBody ..)
        (endsTag_writeBody ..) hafter
      obtain ⟨hinners, hafter⟩ := writeBody_append_inj hs
        (fun r s hr hs' h => by simpa using ihinner hinner hinner' "" hr hs' (by simpa using h))
        hbody
      obtain ⟨hrests, hrs⟩ := ihrest hrest hrest' "" hr hs' (by simpa using hafter)
      rw [prepend_empty] at hrests
      rw [helement, joined, joined, hinners, hrests]
      exact ⟨rfl, hrs⟩

end Content

/-! ## Elements -/

namespace Element

/-- Elements with readable tags that have the same text in a legible style are the same, up to how
their runs of text were put together. -/
theorem joined_eq_of_write_eq {style : XmlStyle} (hs : style.Legible) {a b : Element}
    (ha : a.Readable) (hb : b.Readable) (h : a.write style = b.write style) :
    a.joined = b.joined := by
  have hcontent := Content.write_append_inj hs (c := Content.ofElement a)
    (d := Content.ofElement b) ⟨ha.1, ha.2, trivial⟩ ⟨hb.1, hb.2, trivial⟩ "" (Or.inl rfl)
    (Or.inl rfl) (by simpa [write] using h)
  simpa [Content.ofElement, Content.joined, joined] using hcontent.1

theorem write_eq_of_toXml_eq {a b : Element} (h : a.toXml = b.toXml) :
    a.write .message = b.write .message := by
  simpa [toXml] using congrArg String.toList h

/-- **The text of a message is unambiguous.**  Two trees with readable tags and the same text have
the same names, declarations and attributes in the same order, and the same content, up to how
their runs of text were put together. -/
theorem joined_eq_of_toXml_eq {a b : Element} (ha : a.Readable) (hb : b.Readable)
    (h : a.toXml = b.toXml) : a.joined = b.joined :=
  joined_eq_of_write_eq XmlStyle.legible_message ha hb (write_eq_of_toXml_eq h)

/-- An element whose values look like markup. -/
def remark : Element :=
  named (saml "Remark") |>.declare (some "saml") "a\" b=\"" |>.attr "by" "<x/>"

/-- Text that looks like the end of its element, in pieces and at once. -/
theorem joined_remark_addText :
    (remark |>.addText "a </" |>.addText "" |>.addText "saml:Remark>").Readable ∧
      (remark.addText "a </saml:Remark>").Readable ∧
      (remark |>.addText "a </" |>.addText "" |>.addText "saml:Remark>").toXml
        = (remark.addText "a </saml:Remark>").toXml ∧
      (remark |>.addText "a </" |>.addText "" |>.addText "saml:Remark>").joined
        = (remark.addText "a </saml:Remark>").joined := by
  have hremark : remark.Readable := by simp (disch := decide) [remark]
  have hpieces : (remark |>.addText "a </" |>.addText "" |>.addText "saml:Remark>").Readable := by
    simpa using hremark
  have hwhole : (remark.addText "a </saml:Remark>").Readable := by simpa using hremark
  have htext : (remark |>.addText "a </" |>.addText "" |>.addText "saml:Remark>").toXml
      = (remark.addText "a </saml:Remark>").toXml := by
    rfl
  exact ⟨hpieces, hwhole, htext, joined_eq_of_toXml_eq hpieces hwhole htext⟩

end Element
end WebSso
