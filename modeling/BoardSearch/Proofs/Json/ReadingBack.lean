import BoardSearch.Json.Options
import BoardSearch.Proofs.Json.OneLine
import BoardSearch.Proofs.Value.Document

/-!
# Values that are read back

The value that a sound document stands for is written as the text of that document. The text is
in ASCII and, without an indentation, on one line. Reading it gives the document again: the same
items and members in the same order, with an indentation of blanks as well as without one.

## Main definitions

* `Json.IsIndent`: what a caller may indent the levels of a text by.

## Main statements

* `Value.document_toValue`: the document of what a document stands for is that document;
* `Json.serializeWith_toValue_reads_back`: what is written is read back.
-/

namespace BoardSearch

/-! ## Documents of what documents stand for -/

namespace Value

variable {style : Json.Style}

theorem documents_itemValues {items : List Json}
    (h : ∀ item ∈ items, document (.inStyle style) item.toValue = .ok item) :
    documents (.inStyle style) (Json.itemValues items) = .ok items := by
  induction items with
  | nil => rfl
  | cons item rest ih =>
    obtain ⟨hitem, hrest⟩ := List.forall_mem_cons.mp h
    rw [Json.itemValues, documents, hitem, ih hrest]
    rfl

theorem members_memberValues {named : List (String × Json)}
    (h : ∀ member ∈ named, document (.inStyle style) member.2.toValue = .ok member.2) :
    members (.inStyle style) (documentEntries (.inStyle style)
      ((named.map fun member => (member.1, member.2.toValue)).map
        fun entry => (.text entry.1, entry.2))) = .ok named := by
  induction named with
  | nil => rfl
  | cons member rest ih =>
    obtain ⟨hmember, hrest⟩ := List.forall_mem_cons.mp h
    rw [List.map_cons, List.map_cons, documentEntries, members, memberName, hmember, ih hrest]
    rfl

/-- A sound document is the document of the value that it stands for. -/
theorem document_toValue {d : Json} (h : d.Sound) :
    document (.inStyle style) d.toValue = .ok d := by
  induction h with
  | null | bool | int | float | text => rfl
  | array _ ih =>
    rw [Json.toValue, document, documents_itemValues ih]
    rfl
  | object _ _ ih =>
    rw [Json.toValue, Json.memberValues_eq]
    exact document_record (members_memberValues ih) (by rw [List.map_map]; rfl)

end Value

namespace Json

/-! ## Indentations -/

/-- What a caller may indent the levels of a text by: a number of spaces that can be made, a
truth value as the number that it is, or a text of blanks. Other characters would be no
indentation, as they would stand where a document has blanks only. -/
inductive IsIndent : Value → Prop where
  | spaces {width : Int} (h : width < indentationBound) : IsIndent (.int width)
  | flag (b : Bool) : IsIndent (.bool b)
  | blanks {text : String} (h : ∀ c ∈ text.toList, isBlank c = true) : IsIndent (.text text)

theorem exists_indentation {width : Int} (h : width < indentationBound) :
    ∃ blanks : String, (∀ c ∈ blanks.toList, isBlank c = true) ∧ indentation width = .ok blanks :=
  ⟨_, isBlank_indentation width.toNat, if_pos h⟩

theorem IsIndent.exists_blanks {indent : Value} (h : IsIndent indent) :
    ∃ blanks : String, (∀ c ∈ blanks.toList, isBlank c = true) ∧
      Options.indent? [("indent", indent)] = .ok (some blanks) := by
  cases h with
  | spaces hwidth =>
    obtain ⟨blanks, hblanks, hmade⟩ := exists_indentation hwidth
    exact ⟨blanks, hblanks, congrArg (Except.map some) hmade⟩
  | flag b =>
    have hwidth : (if b then 1 else 0 : Int) < indentationBound := by cases b <;> decide
    obtain ⟨blanks, hblanks, hmade⟩ := exists_indentation hwidth
    exact ⟨blanks, hblanks, congrArg (Except.map some) hmade⟩
  | @blanks text hblanks => exact ⟨text, hblanks, rfl⟩

theorem choices_of_indent {indent : Value} {blanks : String}
    (h : Options.indent? [("indent", indent)] = .ok (some blanks)) :
    Options.choices [("indent", indent)] = .ok (.inStyle (.indented blanks)) := by
  unfold Options.choices
  rw [h]
  rfl

/-! ## Characters -/

theorem isAscii_of_isBlank {c : Char} (h : isBlank c = true) : Text.isAscii c = true := by
  simp only [isBlank, Bool.or_eq_true, beq_iff_eq] at h
  obtain ((rfl | rfl) | rfl) | rfl := h <;> decide

theorem isAscii_of_isGraphic {c : Char} (h : Text.isGraphic c = true) :
    Text.isAscii c = true := by
  simp only [Text.isGraphic, Text.isAscii, Bool.and_eq_true, decide_eq_true_eq] at *
  omega

theorem Style.keepsTo_indented {blanks : String} (h : ∀ c ∈ blanks.toList, isBlank c = true) :
    (indented blanks).KeepsTo (Text.isAscii · = true) where
  graphic _ := isAscii_of_isGraphic
  ascii := rfl
  newline level c hc := isAscii_of_isBlank (isBlank_newline (separates_indented h) level c hc)
  items c hc := isAscii_of_isGraphic ((by decide : AreGraphic ",".toList) c hc)
  names c hc := isAscii_of_isGraphic ((by decide : AreGraphic ": ".toList) c hc)

/-! ## Written values -/

variable {document : Json}

/-- A value is written in the style that the options come to. An indentation is not looked at
for a text. -/
theorem serializeWith_toValue (h : document.Sound) {options : Options} {style : Style}
    (hchoices : Options.choices (if document.toValue.asText?.isSome then
      Keyed.remove "indent" options else options) = .ok (.inStyle style)) :
    document.toValue.serializeWith options = .ok (write style document) := by
  rw [Value.serializeWith, hchoices]
  show Value.serialize (.inStyle style) document.toValue = _
  rw [Value.serialize, Value.document_toValue h]
  rfl

/-- What is written in a style is of the class that the style keeps to, and is read back. -/
theorem exists_text_of_choices {P : Char → Prop} {options : Options} {style : Style}
    (h : document.Sound) (hfinite : document.isFinite = true) (hseparates : style.Separates)
    (hkeeps : style.KeepsTo P)
    (hchoices : Options.choices (if document.toValue.asText?.isSome then
      Keyed.remove "indent" options else options) = .ok (.inStyle style)) :
    ∃ text, document.toValue.serializeWith options = .ok text ∧ (∀ c ∈ text.toList, P c) ∧
      read text = .ok document := by
  refine ⟨_, serializeWith_toValue h hchoices, ?_, read_write_alone hseparates h hfinite⟩
  rw [write, String.toList_ofList]
  exact forall_mem_chars hkeeps h 0

/-- A value of nothing, truth values, short integers, finite numbers, texts, rows and records is
written in ASCII, on one line unless an indentation is asked for. What is written is read back as
the value, whatever it is indented by. -/
theorem serializeWith_toValue_reads_back (h : document.Sound)
    (hfinite : document.isFinite = true) :
    (∀ options, options = [] ∨ options = [("indent", .null)] → ∃ line,
      document.toValue.serializeWith options = .ok line ∧ AreGraphic line.toList ∧
        read line = .ok document) ∧
    ∀ indent, IsIndent indent → ∃ text,
      document.toValue.serializeWith [("indent", indent)] = .ok text ∧
        (∀ c ∈ text.toList, Text.isAscii c = true) ∧ read text = .ok document := by
  constructor
  · rintro options (rfl | rfl)
    all_goals
      refine exists_text_of_choices h hfinite Style.separates_line Style.keepsLine_line.keepsTo ?_
      split <;> rfl
  · intro indent hindent
    cases htext : document.toValue.asText?.isSome with
    | true =>
      have hchoices : Options.choices (Keyed.remove "indent" [("indent", indent)]) =
          .ok (.inStyle .line) := rfl
      refine exists_text_of_choices h hfinite Style.separates_line
        (Style.keepsLine_line.keepsTo.mono fun _ => isAscii_of_isGraphic) ?_
      rw [if_pos htext, hchoices]
    | false =>
      obtain ⟨blanks, hblanks, hindents⟩ := hindent.exists_blanks
      refine exists_text_of_choices h hfinite (Style.separates_indented hblanks)
        (Style.keepsTo_indented hblanks) ?_
      rw [if_neg (by simp [htext]), choices_of_indent hindents]

/-- A record with texts of every kind of escape, and with a row and a record that are empty. -/
def escapes : Json :=
  .object [("\"\\\n\x08", .array [.text "\x7f\u00e9🦊", .int (-12), .array [], .null]),
    ("", .object [])]

theorem serializeWith_toValue_reads_back_escapes :
    escapes.Sound ∧ escapes.isFinite = true ∧ IsIndent (.int 2) ∧
    (∃ line, escapes.toValue.serializeWith [] = .ok line ∧ AreGraphic line.toList ∧
      read line = .ok escapes) ∧
    ∃ text, escapes.toValue.serializeWith [("indent", .int 2)] = .ok text ∧
      (∀ c ∈ text.toList, Text.isAscii c = true) ∧ read text = .ok escapes := by
  have hsound : escapes.Sound := by
    refine .object (by decide) (List.forall_mem_cons.mpr ⟨.array ?_,
      List.forall_mem_singleton.mpr (.object List.nodup_nil (List.forall_mem_nil _))⟩)
    simp only [List.forall_mem_cons]
    exact ⟨.text _, .int (by decide +kernel), .array (List.forall_mem_nil _), .null,
      List.forall_mem_nil _⟩
  have hindent : IsIndent (.int 2) := .spaces (by decide)
  obtain ⟨hline, hindented⟩ := serializeWith_toValue_reads_back hsound rfl
  exact ⟨hsound, rfl, hindent, hline [] (.inl rfl), hindented _ hindent⟩

end Json

end BoardSearch
