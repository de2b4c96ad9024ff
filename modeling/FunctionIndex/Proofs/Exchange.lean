import FunctionIndex.Element
import FunctionIndex.Proofs.Spelling

/-!
# Exchange trees come back from JSON

An exchange tree travels as JSON text without blanks.  Writing leaves out what is absent or empty,
reading fills it in again, and the depth of a document is limited.

* `Element.read_form` : the record of one element is read field by field.
* `Element.readAt_doc` : how deep a reader gets is decided by the height of the tree alone.
* `Element.read_compact` : what is written is read again, unless it is too high.
-/

namespace FunctionIndex

namespace Element

open Json (Doc Fault Form Lexeme Members Items Value)

mutual

/-- Number of elements on the longest way down. -/
def height : Element → Nat
  | mk _ _ _ _ children => heights children + 1

/-- The greatest height of several elements. -/
def heights : List Element → Nat
  | [] => 0
  | e :: es => max (height e) (heights es)

end

mutual

/-- Whether all line numbers are words. -/
def Fits : Element → Prop
  | mk _ _ line endLine children => line ≤ maxWord ∧ (∀ n ∈ endLine, n ≤ maxWord) ∧ FitAll children

/-- Whether all line numbers of several elements are words. -/
def FitAll : List Element → Prop
  | [] => True
  | e :: es => Fits e ∧ FitAll es

end

/-- The record of an element is read field by field, however its children are read. -/
theorem read_form (cs : Doc → Except Fault (List Element)) {depth : Nat} (hdepth : 1 < depth)
    {tag : String} {text : Option String} {line : Nat} {endLine : Option Nat}
    {children : List Element} (hline : line ≤ maxWord) (hend : ∀ n ∈ endLine, n ≤ maxWord) :
    (form cs).read depth {} (mk tag text line endLine children).toJson.doc =
      if children = [] then .ok ⟨tag, text, line, endLine, []⟩
      else (cs (.array (Value.docItems (toJsonAll children)))).map fun es =>
        ⟨tag, text, line, endLine, es⟩ := by
  have htext := (form cs).readMembers_option ["tag"] "text" text Value.str
    (fun text => ⟨tag, text, 0, none, []⟩) rfl rfl fun t _ => by
      change (Doc.readOption Doc.readString (Value.str t).doc).map _ = _
      rw [Json.readOption_doc (by simp) (Json.readString_doc t)]
      rfl
  have hendLine := (form cs).readMembers_option
    ("line" :: (text.toList.map fun _ => "text") ++ ["tag"]) "end_line" endLine Value.num
    (fun endLine => ⟨tag, text, line, endLine, []⟩) rfl (by cases text <;> rfl) fun n hn => by
      change (Doc.readOption (Doc.readWord "usize") (Value.num n).doc).map _ = _
      rw [Json.readOption_doc (by simp) (Json.readWord_doc (hend n hn) _)]
      rfl
  rw [toJson, Value.doc, Form.read, Json.entering, if_neg (by omega), List.append_assoc,
    List.append_assoc, List.append_assoc, List.singleton_append, Form.readMembers_cons _ rfl rfl]
  simp only [Json.readString_doc, bind, Except.bind, pure, Except.pure]
  rw [htext, List.singleton_append, Form.readMembers_cons _ rfl (by cases text <;> rfl)]
  simp only [Json.readWord_doc hline, bind, Except.bind, pure, Except.pure]
  rw [← List.cons_append, hendLine]
  have hgiven (given : List String) (hg : "line" ∈ given ∧ "tag" ∈ given) (d : Draft) :
      (form cs).checkGiven given d = .ok d := by
    simp [Form.checkGiven, form, hg]
  cases children with
  | nil =>
    rw [List.isEmpty_nil, if_pos rfl, if_pos rfl, Value.docMembers, Form.readMembers,
      hgiven _ (by simp)]
  | cons e es =>
    rw [List.isEmpty_cons, if_neg (by simp), if_neg (by simp),
      Form.readMembers_cons _ rfl (by cases text <;> cases endLine <;> rfl)]
    have hchildren : (Value.arr (toJsonAll (e :: es))).doc =
        .array (Value.docItems (toJsonAll (e :: es))) := rfl
    rw [hchildren]
    cases hread : cs (.array (Value.docItems (toJsonAll (e :: es)))) with
    | error fault => simp only [hread, bind, Except.bind, Except.map]
    | ok es' =>
      simp only [hread, bind, Except.bind, pure, Except.pure, Except.map, Value.docMembers,
        Form.readMembers]
      exact hgiven _ (by simp) _

theorem height_pos (e : Element) : 0 < e.height := by
  cases e
  exact Nat.succ_pos _

theorem read_form_shallow (cs : Doc → Except Fault (List Element)) {depth : Nat}
    (hdepth : depth ≤ 1) (e : Element) :
    (form cs).read depth {} e.toJson.doc = .error (.malformed .tooDeep) := by
  cases e
  exact if_pos hdepth

mutual

/-- **An element is read at a depth if and only if it has no more levels than that**: each element
takes two, one for its record and one for the list it stands in. -/
theorem readAt_doc (depth : Nat) (e : Element) (he : e.Fits) :
    readAt depth e.toJson.doc =
      if 2 * e.height ≤ depth then .ok e else .error (.malformed .tooDeep) := by
  match depth, e with
  | 0, e | 1, e =>
    have hpos := e.height_pos
    rw [readAt, read_form_shallow _ (by omega), if_neg (by omega)]
    rfl
  | depth + 2, .mk tag text line endLine children =>
    obtain ⟨hline, hend, hchildren⟩ := he
    have hitems := readItems_doc depth children hchildren
    rw [readAt, read_form _ (by omega) hline hend, height]
    cases children with
    | nil =>
      rw [if_pos rfl, if_pos (by simp [heights])]
      rfl
    | cons c cs =>
      have hpos : 0 < heights (c :: cs) := Nat.lt_of_lt_of_le c.height_pos (Nat.le_max_left _ _)
      simp only [List.cons_ne_nil, if_false, Doc.readList, Json.entering, hitems]
      by_cases hfit : 2 * heights (c :: cs) ≤ depth
      · rw [if_neg (by omega), if_pos hfit, if_pos (by omega)]
        rfl
      · -- Either the list cannot be entered or one of the children is too high.
        rw [if_neg hfit, ite_self, if_neg (by omega)]
        rfl

theorem readItems_doc (depth : Nat) (es : List Element) (hes : FitAll es) :
    (Value.docItems (toJsonAll es)).read (readAt depth) =
      if 2 * heights es ≤ depth then .ok es else .error (.malformed .tooDeep) := by
  match es with
  | [] =>
    rw [heights, if_pos (Nat.zero_le _)]
    rfl
  | e :: es =>
    rw [toJsonAll, Value.docItems, Items.read, readAt_doc depth e hes.1,
      readItems_doc depth es hes.2, heights]
    by_cases hhead : 2 * e.height ≤ depth
    · by_cases htail : 2 * heights es ≤ depth
      · rw [if_pos hhead, if_pos htail, if_pos (by omega)]
        rfl
      · rw [if_pos hhead, if_neg htail, if_neg (by omega)]
        rfl
    · have hboth : ¬2 * max e.height (heights es) ≤ depth := by omega
      rw [if_neg hhead, if_neg hboth]
      rfl

end

/-- **A tree comes back from its JSON text just as it was**, whatever its texts and lines are, as
long as it is at most 64 elements high.  A higher one is refused for its depth. -/
theorem read_compact (e : Element) (he : e.Fits) :
    read (Utf8.encode e.toJson.compact) =
      if e.height ≤ 64 then .ok e else .error (.malformed .tooDeep) := by
  rw [read, Json.readDocument, Doc.scan_compact]
  simp only [readAt_doc _ e he, Json.depthLimit]
  by_cases hheight : e.height ≤ 64
  · rw [if_pos (by omega), if_pos hheight]
    rfl
  · rw [if_neg (by omega), if_neg hheight]
    rfl

/-- A text with a quote, a control character and a character beyond the basic plane, next to one
that is empty and one that is absent, and the greatest line there is. -/
def unusual : Element :=
  .mk "函数" (some "a\"\x01😀") 0 none
    [.mk "" (some "") maxWord (some 0) [], .mk "name" none 1 (some maxWord) []]

theorem read_compact_unusual :
    unusual.height = 2 ∧ unusual.Fits ∧
      read (Utf8.encode unusual.toJson.compact) = .ok unusual := by
  have hfits : unusual.Fits := by simp [unusual, Fits, FitAll, maxWord]
  have hheight : unusual.height = 2 := by decide
  refine ⟨hheight, hfits, ?_⟩
  rw [read_compact unusual hfits, hheight]
  rfl

end Element

end FunctionIndex
