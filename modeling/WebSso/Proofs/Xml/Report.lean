import WebSso.Proofs.Xml.Received
import WebSso.Proofs.Xml.Injective

/-!
# A message is reported as it is received

Of the text of a tree, a processor reports its tags and its runs of text, neither more nor less, and
all that happens to values and runs is what happens to their line ends and their white space.  So a
tree is reported as it was meant if, and only if, there is no white space but blanks in its values
and no carriage return in its text.

The processor is followed through what is written, piece by piece: characters that stand for
themselves, names, values, the start of a tag, and then content by its recursion.

## What is here

* `Tag.WellFormed`, `Content.WellFormed` and `Element.WellFormed`, the trees that can be written as
  a document: names are names, no tag has two attributes of a name, and characters are characters;
* `feed`, what is reported of a text from a place on, with `feed_cons` for a character,
  `feed_letters` for a name and `feed_quoted` for escaped text;
* `feed_start`, `feed_element` and `feed_content`, what is reported of a tag, of an element and of
  content;
* `Element.report_toXml`, what is reported of a message, and when it is what was meant.
-/

set_option autoImplicit false
namespace WebSso

open XmlProcessor

/-! ## Trees that can be written -/

/-- Text of characters that a document may have. -/
def IsXmlText (text : String) : Prop := ∀ c ∈ text.toList, isXmlChar c = true

instance (text : String) : Decidable (IsXmlText text) :=
  decidable_of_iff (text.toList.all isXmlChar = true) List.all_eq_true

/-- A tag that can be written: its names are names, of which no two attributes have the same, and
its values are text. -/
structure Tag.WellFormed (tag : Tag) : Prop where
  /-- The name of the element. -/
  name : isName tag.name.qualified.toList = true
  /-- The names of the declarations and the attributes. -/
  names : ∀ a ∈ tag.written, isName a.name.qualified.toList = true
  /-- They are different. -/
  nodup : (tag.written.map (·.name.qualified)).Nodup
  /-- The values of the declarations and the attributes. -/
  values : ∀ a ∈ tag.written, IsXmlText a.value

theorem Tag.wellFormed_iff (tag : Tag) :
    tag.WellFormed ↔ isName tag.name.qualified.toList = true ∧
      (∀ a ∈ tag.written, isName a.name.qualified.toList = true) ∧
      (tag.written.map (·.name.qualified)).Nodup ∧ ∀ a ∈ tag.written, IsXmlText a.value :=
  ⟨fun ⟨name, names, nodup, values⟩ => ⟨name, names, nodup, values⟩,
    fun ⟨name, names, nodup, values⟩ => ⟨name, names, nodup, values⟩⟩

instance (tag : Tag) : Decidable tag.WellFormed := decidable_of_iff _ tag.wellFormed_iff.symm

namespace Content

/-- Content whose tags can be written and whose runs are text. -/
def WellFormed : Content → Prop
  | done => True
  | text run rest => IsXmlText run ∧ rest.WellFormed
  | element tag inner rest => tag.WellFormed ∧ inner.WellFormed ∧ rest.WellFormed

/-- Whether content can be written. -/
def decideWellFormed : (c : Content) → Decidable c.WellFormed
  | done => isTrue trivial
  | text _ rest =>
    have := rest.decideWellFormed
    inferInstanceAs (Decidable (_ ∧ _))
  | element _ inner rest =>
    have := inner.decideWellFormed
    have := rest.decideWellFormed
    inferInstanceAs (Decidable (_ ∧ _ ∧ _))

instance : DecidablePred WellFormed := decideWellFormed

end Content

/-- An element whose tag and content can be written. -/
def Element.WellFormed (e : Element) : Prop := e.tag.WellFormed ∧ e.content.WellFormed

instance (e : Element) : Decidable e.WellFormed := inferInstanceAs (Decidable (_ ∧ _))

namespace XmlProcessor

/-! ## Characters -/

/-- A character that stands for itself. -/
def isPlain (c : Char) : Bool := isXmlChar c && c != '&' && c != '\r'

theorem isPlain_iff {c : Char} :
    isPlain c = true ↔ isXmlChar c = true ∧ c ≠ '&' ∧ c ≠ '\r' := by
  simp [isPlain, and_assoc]

/-- A character that ends a name in a tag. -/
def endsName (c : Char) : Bool := isSpace c || c == '/' || c == '>' || c == '='

/-- A character of names stands for itself and does not end a name. -/
theorem isPlain_of_nameRanges {c : Char} (h : inRanges nameRanges c = true) :
    isPlain c = true ∧ endsName c = false := by
  have hne (d : Char) (hd : inRanges nameRanges d = false) : c ≠ d := by
    rintro rfl
    rw [h] at hd
    cases hd
  constructor
  · refine isPlain_iff.mpr ⟨?_, hne _ (by decide), hne _ (by decide)⟩
    simp only [inRanges, nameRanges, nameStartRanges, isXmlChar, List.any_cons, List.any_nil,
      List.any_append, Bool.or_false, Bool.or_eq_true, Bool.and_eq_true, decide_eq_true_eq] at h ⊢
    omega
  · simp [endsName, isSpace, hne ' ' (by decide), hne '\t' (by decide), hne '\n' (by decide),
      hne '\r' (by decide), hne '/' (by decide), hne '>' (by decide), hne '=' (by decide)]

/-- A name is a character and more, all of them characters of names. -/
theorem exists_of_isName {l : List Char} (h : isName l = true) :
    ∃ c rest, l = c :: rest ∧ ∀ d ∈ c :: rest, isPlain d = true ∧ endsName d = false := by
  cases l with
  | nil => cases h
  | cons c rest =>
    rw [isName, Bool.and_eq_true, List.all_eq_true] at h
    refine ⟨c, rest, rfl, List.forall_mem_cons.mpr ⟨isPlain_of_nameRanges ?_, ?_⟩⟩
    · rw [inRanges, nameRanges, List.any_append, Bool.or_eq_true]
      exact Or.inl h.1
    · exact fun d hd => isPlain_of_nameRanges (h.2 d hd)

/-! ## Following a text -/

/-- What is reported of a text from a place on. -/
def feed (text : List Char) (place : Place) (nested : List String) : Option (List Report) :=
  (Item.read none (normalizeLineEnds text)).bind fun items => run items place nested

variable {place next : Place} {nested inside : List String} {reports : List Report} {c : Char}

theorem feed_cons (hc : isPlain c = true)
    (hstep : step nested place (.literal c) = some (reports, next, inside)) (rest : List Char) :
    feed (c :: rest) place nested = (feed rest next inside).map (reports ++ ·) := by
  obtain ⟨hxml, hamp, hreturn⟩ := isPlain_iff.mp hc
  rw [feed, normalizeLineEnds_cons hreturn, Item.read_literal hxml hamp, feed]
  cases Item.read none (normalizeLineEnds rest) with
  | none => rfl
  | some items => simp only [Option.map_some, Option.bind_some, run, hstep]

/-- A character of which nothing is reported. -/
theorem feed_silent (hc : isPlain c = true)
    (hstep : step nested place (.literal c) = some ([], next, inside)) (rest : List Char) :
    feed (c :: rest) place nested = feed rest next inside := by
  simpa using feed_cons hc hstep rest

/-- Places at which a character leads to the same. -/
theorem feed_congr (hc : isPlain c = true)
    (hstep : step nested place (.literal c) = step nested next (.literal c)) (rest : List Char) :
    feed (c :: rest) place nested = feed (c :: rest) next nested := by
  obtain ⟨hxml, hamp, hreturn⟩ := isPlain_iff.mp hc
  rw [feed, feed, normalizeLineEnds_cons hreturn, Item.read_literal hxml hamp]
  cases Item.read none (normalizeLineEnds rest) with
  | none => rfl
  | some items => simp only [Option.map_some, Option.bind_some, run, hstep]

/-- Characters that are gathered one by one. -/
theorem feed_gather {place : List Char → Place} {l : List Char}
    (hstep : ∀ c ∈ l, isPlain c = true ∧
      ∀ read, step nested (place read) (.literal c) = some ([], place (c :: read), nested))
    (read rest : List Char) :
    feed (l ++ rest) (place read) nested = feed rest (place (l.reverse ++ read)) nested := by
  induction l generalizing read with
  | nil => rfl
  | cons c l ih =>
    obtain ⟨⟨hc, hfirst⟩, hl⟩ := List.forall_mem_cons.mp hstep
    rw [List.cons_append, feed_silent hc (hfirst read), ih hl, List.reverse_cons,
      List.append_assoc]
    rfl

/-- Items that are gathered one by one. -/
theorem run_gather {place : List Item → Place} {l : List Item}
    (hstep : ∀ item ∈ l, ∀ read,
      step nested (place read) item = some ([], place (item :: read), nested))
    (read items : List Item) :
    run (l ++ items) (place read) nested = run items (place (l.reverse ++ read)) nested := by
  induction l generalizing read with
  | nil => rfl
  | cons item l ih =>
    obtain ⟨hfirst, hl⟩ := List.forall_mem_cons.mp hstep
    simp only [List.cons_append, run, hfirst, ih hl, List.reverse_cons, List.append_assoc,
      List.nil_append, Option.map_id']

/-- Escaped characters that are gathered one by one. -/
theorem feed_quoted {place : List Item → Place} {text : List Char}
    (hxml : ∀ c ∈ text, isXmlChar c = true)
    (hstep : ∀ c read, step nested (place read) (Item.written c)
      = some ([], place (Item.written c :: read), nested))
    {rest : List Char} (hrest : rest.head? ≠ some '\n') :
    feed (text.flatMap XmlStyle.quotedReference ++ rest) (place []) nested
      = feed rest (place ((normalizeLineEnds text).map Item.written).reverse) nested := by
  rw [feed, normalizeLineEnds_quoted text hrest,
    Item.read_quoted (forall_mem_normalizeLineEnds (by decide) hxml), feed]
  cases Item.read none (normalizeLineEnds rest) with
  | none => rfl
  | some items =>
    rw [Option.map_some, Option.bind_some, Option.bind_some, run_gather, List.append_nil]
    simp only [List.forall_mem_map]
    exact fun c _ => hstep c

/-! ## Tags -/

variable {name : String} {attributes : List (String × String)}

/-- A name that is gathered from a place on. -/
theorem feed_letters {place : List Char → Place} {start : Place} {l : List Char}
    (hl : isName l = true)
    (hfirst : ∀ d, endsName d = false →
      step nested start (.literal d) = some ([], place [d], nested))
    (hmore : ∀ d read, endsName d = false →
      step nested (place read) (.literal d) = some ([], place (d :: read), nested))
    (rest : List Char) :
    feed (l ++ rest) start nested = feed rest (place l.reverse) nested := by
  obtain ⟨d, more, rfl, hchars⟩ := exists_of_isName hl
  obtain ⟨⟨hplain, hd⟩, hothers⟩ := List.forall_mem_cons.mp hchars
  rw [List.cons_append, feed_silent hplain (hfirst d hd), List.reverse_cons]
  exact feed_gather (fun c hc => ⟨(hothers c hc).1, fun read => hmore c read (hothers c hc).2⟩)
    [d] rest

/-- Text that begins with a character that ends the name of an element. -/
def EndsElementName (text : List Char) : Prop :=
  ∃ c rest, text = c :: rest ∧ isPlain c = true ∧ (isSpace c || c == '/' || c == '>') = true

theorem feed_name {l : List Char} (hl : isName l = true) {text : List Char}
    (htext : EndsElementName text) :
    feed (l ++ text) .opened nested = feed text (.tag (String.ofList l) [] false) nested := by
  obtain ⟨c, rest, rfl, hc, hend⟩ := htext
  have hfirst (d : Char) (hd : endsName d = false) :
      step nested .opened (.literal d) = some ([], .name [d], nested) := by
    simp only [endsName, Bool.or_eq_false_iff, beq_eq_false_iff_ne] at hd
    simp [step, hd]
  have hmore (d : Char) (read : List Char) (hd : endsName d = false) :
      step nested (.name read) (.literal d) = some ([], .name (d :: read), nested) := by
    simp only [endsName, Bool.or_eq_false_iff] at hd
    simp [step, hd]
  rw [feed_letters hl hfirst hmore]
  refine feed_congr hc ?_ rest
  simp [step, hend, hl]

/-- An attribute is reported with what is received of its value. -/
theorem feed_attribute {a : Attribute} (hname : isName a.name.qualified.toList = true)
    (hvalue : IsXmlText a.value) (hnew : a.name.qualified ∉ attributes.map (·.1))
    (rest : List Char) :
    feed (a.write .message ++ rest) (.tag name attributes false) nested
      = feed rest (.tag name ((a.name.qualified, receivedValue a.value) :: attributes) false)
          nested := by
  have hblank : step nested (.tag name attributes false) (.literal ' ')
      = some ([], .tag name attributes true, nested) := rfl
  have hfirst (d : Char) (hd : endsName d = false) :
      step nested (.tag name attributes true) (.literal d)
        = some ([], .key name attributes [d], nested) := by
    simp only [endsName, Bool.or_eq_false_iff, beq_eq_false_iff_ne] at hd
    simp [step, stepTag, hd]
  have hmore (d : Char) (read : List Char) (hd : endsName d = false) :
      step nested (.key name attributes read) (.literal d)
        = some ([], .key name attributes (d :: read), nested) := by
    simp only [endsName, Bool.or_eq_false_iff] at hd
    simp [step, hd]
  have hequals : step nested (.key name attributes a.name.qualified.toList.reverse) (.literal '=')
      = some ([], .quote name attributes a.name.qualified, nested) := by
    simp [step, stepEquals, isSpace, hname]
  have hquote : step nested (.quote name attributes a.name.qualified) (.literal '"')
      = some ([], .value name attributes a.name.qualified '"' [], nested) := rfl
  have hquoted (c : Char) (read : List Item) :
      step nested (.value name attributes a.name.qualified '"' read) (.written c)
        = some ([], .value name attributes a.name.qualified '"' (.written c :: read), nested) := by
    simp [step, Item.written_ne_literal]
  have hend : step nested (.value name attributes a.name.qualified '"'
        ((normalizeLineEnds a.value.toList).map Item.written).reverse) (.literal '"')
      = some ([], .tag name ((a.name.qualified, receivedValue a.value) :: attributes) false,
          nested) := by
    simp only [step, if_pos, if_neg hnew, List.reverse_reverse, List.map_map, receivedValue,
      Function.comp_def, Item.inValue_written]
  rw [Attribute.write, XmlStyle.writePair]
  simp only [List.cons_append, List.append_assoc, List.nil_append]
  rw [feed_silent (by decide) hblank, feed_letters hname hfirst hmore,
    feed_silent (by decide) hequals, feed_silent (by decide) hquote,
    XmlStyle.message, feed_quoted hvalue hquoted (by simp), feed_silent (by decide) hend]

/-- What is received of an attribute. -/
def receivedAttribute (a : Attribute) : String × String :=
  (a.name.qualified, receivedValue a.value)

theorem feed_attributes {l : List Attribute}
    (hnames : ∀ a ∈ l, isName a.name.qualified.toList = true)
    (hvalues : ∀ a ∈ l, IsXmlText a.value)
    (hnodup : (l.map (·.name.qualified) ++ attributes.map (·.1)).Nodup) (rest : List Char) :
    feed (l.flatMap (·.write .message) ++ rest) (.tag name attributes false) nested
      = feed rest (.tag name ((l.map receivedAttribute).reverse ++ attributes) false) nested := by
  induction l generalizing attributes with
  | nil => rfl
  | cons a l ih =>
    rw [List.forall_mem_cons] at hnames hvalues
    rw [List.map_cons, List.cons_append] at hnodup
    obtain ⟨hnew, hothers⟩ := List.nodup_cons.mp hnodup
    rw [List.flatMap_cons, List.append_assoc, feed_attribute hnames.1 hvalues.1
      (fun h => hnew (List.mem_append_right _ h)), ih hnames.2 hvalues.2 ?_]
    · simp [receivedAttribute]
    · simpa using List.perm_middle.nodup_iff.mpr hnodup

/-- The start of a tag, up to a character that ends it. -/
theorem feed_start {tag : Tag} (htag : tag.WellFormed) (hc : c = '/' ∨ c = '>')
    (hstep : step nested place (.literal '<') = some (reports, .opened, nested))
    (rest : List Char) :
    feed (tag.writeStart .message ++ c :: rest) place nested
      = (feed (c :: rest)
          (.tag tag.name.qualified (tag.written.map receivedAttribute).reverse false) nested).map
          (reports ++ ·) := by
  have hends : EndsElementName (tag.written.flatMap (·.write .message) ++ c :: rest) := by
    cases tag.written with
    | nil => rcases hc with rfl | rfl <;> exact ⟨_, rest, rfl, by decide, by decide⟩
    | cons a l => exact ⟨' ', _, rfl, by decide, by decide⟩
  rw [tag.writeStart_eq, List.cons_append, List.append_assoc, feed_cons (by decide) hstep,
    feed_name htag.name hends, String.ofList_toList,
    feed_attributes htag.names htag.values (by simpa using htag.nodup), List.append_nil]

/-- The end of an element, behind its `<`. -/
theorem feed_end {l : List Char} (hl : isName l = true) (nested : List String)
    (rest : List Char) :
    feed ('/' :: (l ++ '>' :: rest)) .opened (String.ofList l :: nested)
      = (feed rest (leave nested) nested).map ([.stop (String.ofList l)] ++ ·) := by
  have hslash : step (String.ofList l :: nested) .opened (.literal '/')
      = some ([], .closing [], String.ofList l :: nested) := rfl
  have hmore (d : Char) (read : List Char) (hd : endsName d = false) :
      step (String.ofList l :: nested) (.closing read) (.literal d)
        = some ([], .closing (d :: read), String.ofList l :: nested) := by
    simp only [endsName, Bool.or_eq_false_iff] at hd
    simp [step, hd]
  have hclose : step (String.ofList l :: nested) (.closing l.reverse) (.literal '>')
      = some ([.stop (String.ofList l)], leave nested, nested) := by
    simp [step, stepClosed, isSpace]
  rw [feed_silent (by decide) hslash, feed_letters hl (fun d => hmore d []) hmore,
    feed_cons (by decide) hclose]

/-! ## Content -/

theorem map_received_around (tag : Tag) (inside : List Report) :
    (tag.around inside).map Report.received
      = [.start tag.name.qualified (tag.written.map receivedAttribute)]
        ++ (inside.map Report.received ++ [.stop tag.name.qualified]) := by
  simp [Tag.around, Report.received, receivedAttribute]

theorem map_append_map_append (a b : List Report) (reports : Option (List Report)) :
    (reports.map (b ++ ·)).map (a ++ ·) = reports.map (a ++ b ++ ·) := by
  simp only [Option.map_map, Function.comp_def, List.append_assoc]

/-- Content in some elements is reported as it is received, up to the next tag. -/
def IsReported (c : Content) (nested : List String) : Prop :=
  ∀ text, feed (c.write .message ++ '<' :: text) (.content []) nested
    = (feed text .opened nested).map ((c.reports "").map Report.received ++ ·)

/-- How an element goes on after the start of its tag. -/
theorem feed_body {tag : Tag} {inner : Content} (htag : tag.WellFormed)
    (hinner : IsReported inner (tag.name.qualified :: nested)) (rest : List Char) :
    feed (Content.writeBody .message tag inner ++ rest)
        (.tag tag.name.qualified (tag.written.map receivedAttribute).reverse false) nested
      = (feed rest (leave nested) nested).map
          ((tag.around (inner.reports "")).map Report.received ++ ·) := by
  rw [map_received_around, Content.writeBody]
  split
  · next hdone =>
    obtain rfl := Content.eq_done hdone
    have hslash : step nested
          (.tag tag.name.qualified (tag.written.map receivedAttribute).reverse false) (.literal '/')
        = some ([], .empty tag.name.qualified (tag.written.map receivedAttribute).reverse,
            nested) := rfl
    have hempty : step nested
          (.empty tag.name.qualified (tag.written.map receivedAttribute).reverse) (.literal '>')
        = some ([.start tag.name.qualified (tag.written.map receivedAttribute),
            .stop tag.name.qualified], leave nested, nested) := by
      simp [step]
    exact (feed_silent (by decide) hslash ('>' :: rest)).trans (feed_cons (by decide) hempty rest)
  · have hopen : step nested
          (.tag tag.name.qualified (tag.written.map receivedAttribute).reverse false) (.literal '>')
        = some ([.start tag.name.qualified (tag.written.map receivedAttribute)], .content [],
            tag.name.qualified :: nested) := by
      simp [step, stepTag, isSpace]
    have hend := feed_end htag.name nested rest
    rw [String.ofList_toList] at hend
    simp only [Tag.writeEnd, List.cons_append, List.append_assoc, List.nil_append]
    rw [feed_cons (by decide) hopen, hinner, hend, map_append_map_append, map_append_map_append]
    simp only [List.cons_append, List.append_assoc, List.nil_append]

/-- An element, from a place at which one can begin. -/
theorem feed_element {tag : Tag} {inner : Content} (htag : tag.WellFormed)
    (hinner : IsReported inner (tag.name.qualified :: nested))
    (hstep : step nested place (.literal '<') = some (reports, .opened, nested))
    (rest : List Char) :
    feed (tag.writeStart .message ++ (Content.writeBody .message tag inner ++ rest)) place nested
      = (feed rest (leave nested) nested).map
          (reports ++ (tag.around (inner.reports "")).map Report.received ++ ·) := by
  obtain ⟨c, body, hbody, hc⟩ : ∃ c body,
      Content.writeBody .message tag inner ++ rest = c :: body ∧ (c = '/' ∨ c = '>') := by
    rw [Content.writeBody]
    split
    · exact ⟨'/', _, rfl, Or.inl rfl⟩
    · exact ⟨'>', _, rfl, Or.inr rfl⟩
  rw [hbody, feed_start htag hc hstep, ← hbody, feed_body htag hinner rest,
    map_append_map_append]

theorem step_content_written (nested : List String) (c : Char) (read : List Item) :
    step nested (.content read) (.written c)
      = some ([], .content (.written c :: read), nested) := by
  simp [step, Item.written_ne_literal]

/-- A tag begins behind some text. -/
theorem step_content_open (nested : List String) (pending : String) :
    step nested (.content ((normalizeLineEnds pending.toList).map Item.written).reverse)
        (.literal '<')
      = some ((textReports pending).map Report.received, .opened, nested) := by
  simp only [step, if_pos, List.reverse_reverse, List.map_map, Function.comp_def,
    Item.inText_written, List.map_id', map_received_textReports, receivedText]

/-- **Content is reported as it is received**, behind text that was read before and up to the next
tag. -/
theorem feed_content {c : Content} (hc : c.WellFormed) {pending : String}
    (hpending : IsXmlText pending) (hnested : nested ≠ []) (text : List Char) :
    feed (pending.toList.flatMap XmlStyle.quotedReference ++ (c.write .message ++ '<' :: text))
        (.content []) nested
      = (feed text .opened nested).map ((c.reports pending).map Report.received ++ ·) := by
  -- Text is gathered up to the next tag, so the runs of `c` are added to what was read before.
  induction c generalizing pending nested text with
  | done =>
    rw [Content.write, List.nil_append,
      feed_quoted hpending (step_content_written nested) (by simp),
      feed_cons (by decide) (step_content_open nested pending), Content.reports]
  | text run rest ih =>
    have happended : IsXmlText (pending ++ run) := by
      simpa [IsXmlText, or_imp, forall_and] using And.intro hpending hc.1
    have hrest := ih hc.2 happended hnested text
    rw [String.toList_append, List.flatMap_append, List.append_assoc] at hrest
    rw [Content.write, List.append_assoc, Content.reports]
    exact hrest
  | element tag inner rest ihinner ihrest =>
    obtain ⟨htag, hinner, hrest⟩ := hc
    have hempty : IsXmlText "" := by simp [IsXmlText]
    have hreported : IsReported inner (tag.name.qualified :: nested) :=
      fun text => ihinner hinner hempty (List.cons_ne_nil _ _) text
    have hleave : leave nested = .content [] := by
      cases nested with
      | nil => exact absurd rfl hnested
      | cons _ _ => rfl
    have hafter := ihrest hrest hempty hnested text
    rw [String.toList_empty, List.flatMap_nil, List.nil_append] at hafter
    rw [Content.write_element, feed_quoted hpending (step_content_written nested)
        (by rw [tag.writeStart_eq]; simp),
      feed_element htag hreported (step_content_open nested pending), hleave, hafter,
      map_append_map_append, Content.reports]
    simp only [List.map_append, List.append_assoc]

theorem isReported {c : Content} (hc : c.WellFormed) (hnested : nested ≠ []) :
    IsReported c nested := by
  intro text
  have hempty : IsXmlText "" := by simp [IsXmlText]
  simpa using feed_content hc hempty hnested text

end XmlProcessor

/-! ## Messages -/

namespace Element

/-- **What is reported of a message** is what was meant, as it is received: its line ends are line
feeds, and the white space in its values is blanks.  So it is reported as it was meant if, and only
if, there is no white space but blanks in a value and no carriage return in a text. -/
theorem report_toXml {e : Element} (he : e.WellFormed) :
    report e.toXml = some (e.reports.map Report.received) ∧
      (report e.toXml = some e.reports ↔ ∀ said ∈ e.reports, said.Survives) := by
  have hinner : IsReported e.content [e.tag.name.qualified] :=
    isReported he.2 (List.cons_ne_nil _ _)
  have hwritten : e.toXml.toList
      = e.tag.writeStart .message ++ (Content.writeBody .message e.tag e.content ++ []) := by
    rw [toXml, String.toList_ofList, write, Content.ofElement,
      ← List.append_nil (Content.write _ _), Content.write_element]
    rfl
  have hbegin : step [] .before (.literal '<') = some ([], .opened, []) := rfl
  have hreport : report e.toXml = some (e.reports.map Report.received) := by
    change feed e.toXml.toList .before [] = _
    have hend : feed [] (leave []) [] = some [] := rfl
    rw [hwritten, feed_element he.1 hinner hbegin, hend, Option.map_some, List.append_nil,
      List.nil_append, reports]
  refine ⟨hreport, ?_⟩
  rw [hreport, Option.some.injEq, map_eq_self_iff]
  simp only [Report.received_eq_self_iff]

/-- An element with a title, and a text before and behind an element without content. -/
def note (title text : String) : Element :=
  named (.plain "note") |>.attr "title" title |>.addText text |>.addChild (named (saml "Break"))
    |>.addText text

/-- Markup is received, and so is a line feed in text; in a title it becomes a blank. -/
theorem report_toXml_note :
    (note "\"a\n<b>\"" "]]>\n&amp;").WellFormed ∧ (note "\"a <b>\"" "]]>\n&amp;").WellFormed ∧
      report (note "\"a\n<b>\"" "]]>\n&amp;").toXml
        = some (note "\"a <b>\"" "]]>\n&amp;").reports ∧
      report (note "\"a <b>\"" "]]>\n&amp;").toXml
        = some (note "\"a <b>\"" "]]>\n&amp;").reports := by
  have hfeed : (note "\"a\n<b>\"" "]]>\n&amp;").WellFormed := by decide +kernel
  have hblank : (note "\"a <b>\"" "]]>\n&amp;").WellFormed := by decide +kernel
  refine ⟨hfeed, hblank, ?_, ?_⟩
  · rw [(report_toXml hfeed).1]
    decide +kernel
  · exact (report_toXml hblank).2.mpr (by decide +kernel)

/-- **White space is lost**: a line feed and a tab in a value, and a carriage return in text. -/
theorem report_toXml_white :
    IsXmlText "a\nb\tc" ∧ IsXmlText "a\rb" ∧
      report (named (.plain "note") |>.attr "title" "a\nb\tc").toXml
        = some [.start "note" [("title", "a b c")], .stop "note"] ∧
      report (named (.plain "note") |>.addText "a\rb").toXml
        = some [.start "note" [], .text "a\nb", .stop "note"] := by
  decide +kernel

end Element
end WebSso
