import BoardSearch.Log.Line
import BoardSearch.Proofs.Breaking
import BoardSearch.Proofs.Json.OneLine
import BoardSearch.Proofs.Value.Document

/-!
# Records as JSON lines

A record is written as one line with a JSON object on it. The message of the object is that of the
record if it has no arguments, and otherwise the message filled with the arguments, or a notice
that quotes both. Bytes are decoded before the message is filled, and a notice writes out whatever
integers are among the arguments. Where either fails there is no notice for it, and no line.

## Main definitions

* `Log.Record.IsCall`: a record as a call to a log makes it;
* `Log.Record.Fills`: a record has a template and arguments for it;
* `Log.Record.Says`: the message that a line has to hold;
* `Log.Record.Unsayable`: the ways in which a record has no message;
* `Log.Record.Holds`: a line holds a message.

## Main statements

* `Value.exists_serialize_record`: what the line of a record of sound values holds;
* `Log.Record.messageValue_cases`: when a record has a message, and which;
* `Log.Record.jsonLine_holds`: when a record has a line, and what the line holds.
-/

namespace BoardSearch

/-! ## Bytes -/

theorem fromUTF8?_eq_none_iff {octets : ByteArray} :
    String.fromUTF8? octets = none ↔ ∀ text : String, text.toUTF8 ≠ octets := by
  unfold String.fromUTF8?
  constructor
  · intro h text heq
    rw [← heq, String.toUTF8_eq_toByteArray, dif_pos text.isValidUTF8] at h
    exact absurd h nofun
  · intro h
    exact dif_neg fun hvalid => h (String.fromUTF8 octets hvalid) rfl

namespace Value

/-- The value is bytes that encode no text. -/
def IsUndecodable (value : Value) : Prop :=
  ∃ octets, value = .bytes octets ∧ ∀ text : String, text.toUTF8 ≠ ⟨octets.toArray⟩

/-! ## Lines of records -/

variable {named : List (String × Value)}

theorem find?_members {style : Json.Style} {ms : List (String × Json)}
    (h : members (.inStyle style) (documentEntries (.inStyle style)
      (named.map fun entry => (.text entry.1, entry.2))) = .ok ms) {name : String} {value : Value}
    (hfound : Keyed.find? name named = some value) :
    ∃ d, document (.inStyle style) value = .ok d ∧ Keyed.find? name ms = some d := by
  induction named generalizing ms with
  | nil => exact absurd hfound nofun
  | cons entry rest ih =>
    obtain ⟨key, first⟩ := entry
    rw [List.map_cons, documentEntries, members, memberName] at h
    obtain ⟨_, hkey, h⟩ := bind_eq_ok.mp h
    obtain rfl := Except.ok.inj hkey
    obtain ⟨d, hd, h⟩ := bind_eq_ok.mp h
    obtain ⟨others, hothers, h⟩ := bind_eq_ok.mp h
    obtain rfl := Except.ok.inj h
    by_cases hname : key = name
    · subst hname
      simp only [Keyed.find?, BEq.rfl, if_true, Option.some.injEq] at hfound ⊢
      exact ⟨d, hfound ▸ hd, rfl⟩
    · have hdifferent : (key == name) = false := beq_eq_false_iff_ne.mpr hname
      simp only [Keyed.find?, hdifferent, Bool.false_eq_true, if_false] at hfound ⊢
      exact ih hothers hfound

/-- A record of sound values that can be written is one line with a JSON object on it. The texts
of the record are members of the object. -/
theorem exists_serialize_record (hnames : (named.map (·.1)).Nodup)
    (hvalues : ∀ entry ∈ named, entry.2.Sound ∧ entry.2.isWritable = true) :
    ∃ line, (record named).serialize .standard = .ok line ∧ Json.AreGraphic line.toList ∧
      Json.IsText line ∧ ∃ members, Json.read line = .ok (.object members) ∧
        ∀ name text, Keyed.find? name named = some (.text text) →
          Keyed.find? name members = some (.text text) := by
  have hwritable : (record named).isWritable = true :=
    isWritable_record.mpr fun entry hentry => (hvalues entry hentry).2
  obtain ⟨ms, hms, hkeys, hsounds, hfinite⟩ | ⟨hnot, -⟩ :=
    members_of_forall fun entry hentry => (hvalues entry hentry).1.isDocumented
  · have hsound : (Json.object ms).Sound := .object (hkeys ▸ hnames) hsounds
    have hfinite : (Json.object ms).isFinite = true := hfinite.trans hwritable
    have hdocument := document_record (hms .line) hkeys
    have hblanks : ∀ c ∈ "".toList, Json.isBlank c = true := List.forall_mem_nil _
    have hread := Json.read_write_alone Json.Style.separates_line hsound hfinite
    have htext := Json.isText_write Json.Style.separates_line hsound hfinite hblanks
    rw [String.append_empty] at htext
    refine ⟨Json.write .line (.object ms), congrArg (Except.map _) hdocument, ?_, htext, ms, hread,
      ?_⟩
    · rw [Json.write, String.toList_ofList]
      exact Json.areGraphic_chars Json.Style.keepsLine_line hsound 0
    · intro name text hfound
      obtain ⟨d, hd, hmember⟩ := find?_members (hms .line) hfound
      rw [hmember, ← Except.ok.inj hd]
  · exact absurd (hnot.symm.trans hwritable) Bool.false_ne_true

end Value

namespace Log.Record

/-! ## What a record says -/

variable {record : Record}

/-- The value is an argument of the record, or a key of one. -/
def HasArgument (record : Record) (value : Value) : Prop :=
  match record.arguments with
  | .tuple items => value ∈ items
  | .mapping entries => ∃ entry ∈ entries, value = entry.1 ∨ value = entry.2
  | _ => False

/-- The record is that of a call: a text or bytes, with a row of arguments, a mapping of them or
none, from a process and a thread with short numbers. -/
structure IsCall (record : Record) : Prop where
  message : (∃ text, record.message = .text text) ∨ ∃ octets, record.message = .bytes octets
  arguments : record.arguments = .null ∨ (∃ items, record.arguments = .tuple items) ∨
    ∃ entries, record.arguments = .mapping entries
  process : record.process = .null ∨ ∃ n, record.process = .int n ∧ Value.isShort n = true
  thread : record.thread = .null ∨ ∃ n, record.thread = .int n ∧ Value.isShort n = true
  stack : record.stack = .null ∨ ∃ text, record.stack = .text text

/-- The record has a template and arguments to fill it with, both decoded. -/
structure Fills (record : Record) (template : String) (arguments : Value) : Prop where
  message : decoded record.message = .ok (.text template)
  given : record.arguments.truthy = true
  arguments : decodedArguments record.arguments = .ok (some arguments)

/-- The message that the line of a record has to hold. -/
inductive Says (record : Record) : String → Prop where
  /-- Without arguments it is the message of the record. -/
  | alone {text : String} (hmessage : decoded record.message = .ok (.text text))
      (hnone : record.arguments.truthy = false) : Says record text
  /-- With arguments it is the message filled with them. -/
  | filled {template text : String} {arguments : Value} (h : record.Fills template arguments)
      (hfilled : Record.filled (.text template) arguments = .ok text) : Says record text
  /-- If they do not fit, it is the notice that quotes both. -/
  | noticed {template : String} {arguments : Value} {fault : Template.Fault}
      (h : record.Fills template arguments)
      (hfault : Record.filled (.text template) arguments = .error fault) :
      Says record (notice fault (.text template) arguments)

/-- The ways in which the record of a call has no message to write. -/
inductive Unsayable (record : Record) : Prop where
  /-- The message is bytes that encode no text. -/
  | message (hbytes : record.message.IsUndecodable)
  /-- An argument, or a key of one, is bytes that encode no text. -/
  | argument {value : Value} (hargument : record.HasArgument value)
      (hbytes : value.IsUndecodable)
  /-- The arguments do not fit, and the notice cannot be written for an integer among them. -/
  | notice {template : String} {arguments : Value} {fault : Template.Fault}
      (h : record.Fills template arguments)
      (hfault : Record.filled (.text template) arguments = .error fault)
      (htext : arguments.hasText = false)

theorem Fills.unique {template template' : String} {arguments arguments' : Value}
    (h : record.Fills template arguments) (h' : record.Fills template' arguments') :
    template = template' ∧ arguments = arguments' := by
  have hmessage := h.message.symm.trans h'.message
  have harguments := h.arguments.symm.trans h'.arguments
  exact ⟨Value.text.inj (Except.ok.inj hmessage), Option.some.inj (Except.ok.inj harguments)⟩

/-! ## Decoding -/

theorem failsIff_decoded (value : Value) : FailsIff (decoded value) value.IsUndecodable := by
  cases value with
  | bytes octets =>
    rw [decoded]
    cases hdecoded : String.fromUTF8? ⟨octets.toArray⟩ with
    | none =>
      refine (FailsIff.error rfl).congr (iff_of_true trivial ?_)
      exact ⟨octets, rfl, fromUTF8?_eq_none_iff.mp hdecoded⟩
    | some text =>
      refine (FailsIff.ok _).congr (iff_of_false id ?_)
      rintro ⟨_, heq, hnone⟩
      obtain rfl := Value.bytes.inj heq
      rw [fromUTF8?_eq_none_iff.mpr hnone] at hdecoded
      exact absurd hdecoded nofun
  | _ => exact (FailsIff.ok _).congr (iff_of_false id nofun)

theorem failsIff_decodedEntry (entry : Value × Value) :
    FailsIff (decodedEntry entry) (entry.1.IsUndecodable ∨ entry.2.IsUndecodable) := by
  refine ((failsIff_decoded entry.1).bind fun _ _ => (failsIff_decoded entry.2).bind
    fun _ _ => FailsIff.ok _).congr ?_
  rw [or_false]

theorem failsIff_decodedArguments (h : record.IsCall) :
    FailsIff (decodedArguments record.arguments)
      (∃ value, record.HasArgument value ∧ value.IsUndecodable) := by
  unfold HasArgument
  obtain hnull | ⟨items, hitems⟩ | ⟨entries, hentries⟩ := h.arguments
  · rw [hnull]
    exact (FailsIff.ok none).congr (by simp)
  · rw [hitems]
    refine ((FailsIff.mapM failsIff_decoded).bind fun _ _ => FailsIff.ok _).congr ?_
    rw [or_false]
  · rw [hentries]
    refine ((FailsIff.mapM failsIff_decodedEntry).bind fun _ _ => FailsIff.ok _).congr ?_
    rw [or_false]
    constructor
    · rintro ⟨entry, hentry, hkey | hvalue⟩
      · exact ⟨entry.1, ⟨entry, hentry, .inl rfl⟩, hkey⟩
      · exact ⟨entry.2, ⟨entry, hentry, .inr rfl⟩, hvalue⟩
    · rintro ⟨_, ⟨entry, hentry, rfl | rfl⟩, hbytes⟩
      · exact ⟨entry, hentry, .inl hbytes⟩
      · exact ⟨entry, hentry, .inr hbytes⟩

theorem exists_text_of_decoded (h : record.IsCall) {message : Value}
    (hmessage : decoded record.message = .ok message) : ∃ text, message = .text text := by
  obtain ⟨text, htext⟩ | ⟨octets, hoctets⟩ := h.message
  · rw [htext] at hmessage
    exact ⟨text, (Except.ok.inj hmessage).symm⟩
  · rw [hoctets, decoded] at hmessage
    split at hmessage
    · next text _ => exact ⟨text, (Except.ok.inj hmessage).symm⟩
    · exact absurd hmessage nofun

theorem ne_none_of_decodedArguments (h : record.IsCall)
    (hgiven : record.arguments.truthy = true) :
    decodedArguments record.arguments ≠ .ok none := by
  intro hnone
  obtain hnull | ⟨items, hitems⟩ | ⟨entries, hentries⟩ := h.arguments
  · rw [hnull] at hgiven
    exact absurd hgiven nofun
  · rw [hitems] at hnone
    obtain ⟨_, _, hnone⟩ := bind_eq_ok.mp hnone
    exact absurd hnone nofun
  · rw [hentries] at hnone
    obtain ⟨_, _, hnone⟩ := bind_eq_ok.mp hnone
    exact absurd hnone nofun

theorem truthy_of_hasArgument {value : Value} (h : record.HasArgument value) :
    record.arguments.truthy = true := by
  unfold HasArgument at h
  split at h
  · next items hitems =>
    rw [hitems, Value.truthy]
    cases items with
    | nil => exact absurd h List.not_mem_nil
    | cons => rfl
  · next entries hentries =>
    obtain ⟨entry, hentry, -⟩ := h
    rw [hentries, Value.truthy]
    cases entries with
    | nil => exact absurd hentry List.not_mem_nil
    | cons => rfl
  · exact absurd h id

/-! ## Filling -/

theorem failsIff_filledOrNotice (template : String) (arguments : Value) :
    FailsIff (filledOrNotice (.text template) arguments)
      ((∃ fault, Record.filled (.text template) arguments = .error fault) ∧
        arguments.hasText = false) := by
  unfold filledOrNotice
  cases Record.filled (.text template) arguments with
  | ok text => exact (FailsIff.ok text).congr (by simp)
  | error fault =>
    cases htext : arguments.hasText with
    | true => exact (FailsIff.ok _).congr (by simp)
    | false => exact (FailsIff.error rfl).congr (by simp)

theorem says_of_filledOrNotice {template text : String} {arguments : Value}
    (hfills : record.Fills template arguments)
    (h : filledOrNotice (.text template) arguments = .ok text) : record.Says text := by
  unfold filledOrNotice at h
  split at h
  · next hfilled => exact Except.ok.inj h ▸ .filled hfills hfilled
  · next hfault =>
    split at h
    · exact Except.ok.inj h ▸ .noticed hfills hfault
    · exact absurd h nofun

theorem messageValue_of_not_truthy {message : Value}
    (hmessage : decoded record.message = .ok message)
    (hnone : record.arguments.truthy = false) : record.messageValue = .ok message := by
  rw [messageValue, hmessage]
  show (if (!record.arguments.truthy) = true then _ else _) = _
  rw [hnone]
  rfl

theorem messageValue_of_truthy {message : Value}
    (hmessage : decoded record.message = .ok message)
    (hgiven : record.arguments.truthy = true) :
    record.messageValue = decodedArguments record.arguments >>= fun
      | none => .ok message
      | some arguments => (filledOrNotice message arguments).map .text := by
  rw [messageValue, hmessage]
  show (if (!record.arguments.truthy) = true then _ else _) = _
  rw [hgiven]
  rfl

theorem not_unsayable_of_not_truthy {message : Value}
    (hmessage : decoded record.message = .ok message)
    (hnone : record.arguments.truthy = false) : ¬record.Unsayable := by
  intro hunsayable
  cases hunsayable with
  | message hbytes => exact (failsIff_decoded _).exists_ok_iff.mp ⟨_, hmessage⟩ hbytes
  | argument hargument _ =>
    exact Bool.false_ne_true (hnone.symm.trans (truthy_of_hasArgument hargument))
  | notice hfills => exact Bool.false_ne_true (hnone.symm.trans hfills.given)

/-- With what fills it at hand, a record has no message only where it has no notice either. -/
theorem Fills.failsIff {template : String} {arguments : Value}
    (hfills : record.Fills template arguments) (h : record.IsCall) :
    FailsIff (filledOrNotice (.text template) arguments) record.Unsayable := by
  refine (failsIff_filledOrNotice template arguments).congr ⟨?_, ?_⟩
  · rintro ⟨⟨fault, hfault⟩, htext⟩
    exact .notice hfills hfault htext
  · intro hunsayable
    cases hunsayable with
    | message hbytes =>
      exact absurd hbytes ((failsIff_decoded _).exists_ok_iff.mp ⟨_, hfills.message⟩)
    | argument hargument hbytes =>
      have hdecoded := (failsIff_decodedArguments h).exists_ok_iff.mp ⟨_, hfills.arguments⟩
      exact absurd ⟨_, hargument, hbytes⟩ hdecoded
    | notice hfills' hfault htext =>
      obtain ⟨rfl, rfl⟩ := hfills.unique hfills'
      exact ⟨⟨_, hfault⟩, htext⟩

/-- The message of a record says what it has to, or the record has no message. -/
theorem messageValue_cases (h : record.IsCall) :
    (∃ text, record.messageValue = .ok (.text text) ∧ record.Says text ∧ ¬record.Unsayable) ∨
    (∃ failure, record.messageValue = .error failure) ∧ record.Unsayable := by
  cases hmessage : decoded record.message with
  | error failure =>
    have hbytes := (failsIff_decoded record.message).fails_iff.mp ⟨failure, hmessage⟩
    refine .inr ⟨⟨failure, ?_⟩, .message hbytes⟩
    rw [messageValue, hmessage]
    rfl
  | ok message =>
    obtain ⟨template, rfl⟩ := exists_text_of_decoded h hmessage
    cases hgiven : record.arguments.truthy with
    | false =>
      exact .inl ⟨template, messageValue_of_not_truthy hmessage hgiven, .alone hmessage hgiven,
        not_unsayable_of_not_truthy hmessage hgiven⟩
    | true =>
      have hvalue := messageValue_of_truthy hmessage hgiven
      cases harguments : decodedArguments record.arguments with
      | error failure =>
        obtain ⟨value, hargument, hbytes⟩ :=
          (failsIff_decodedArguments h).fails_iff.mp ⟨failure, harguments⟩
        rw [harguments] at hvalue
        exact .inr ⟨⟨failure, hvalue⟩, .argument hargument hbytes⟩
      | ok result =>
        cases result with
        | none => exact absurd harguments (ne_none_of_decodedArguments h hgiven)
        | some arguments =>
          have hfills : record.Fills template arguments := ⟨hmessage, hgiven, harguments⟩
          have hfails := hfills.failsIff h
          replace hvalue : record.messageValue =
              (filledOrNotice (.text template) arguments).map .text := by
            rw [hvalue, harguments]
            rfl
          cases hfilled : filledOrNotice (.text template) arguments with
          | error failure =>
            rw [hfilled] at hvalue
            exact .inr ⟨⟨failure, hvalue⟩, hfails.fails_iff.mp ⟨failure, hfilled⟩⟩
          | ok text =>
            rw [hfilled] at hvalue
            exact .inl ⟨text, hvalue, says_of_filledOrNotice hfills hfilled,
              hfails.exists_ok_iff.mp ⟨text, hfilled⟩⟩

/-! ## Lines -/

/-- The line holds a JSON object with the message, and nothing else. -/
def Holds (line text : String) : Prop :=
  Json.AreGraphic line.toList ∧ Json.IsText line ∧
    ∃ members, Json.read line = .ok (.object members) ∧
      Keyed.find? "message" members = some (.text text)

theorem sublist_member (name : String) (value : Value) :
    ((member name value).map (·.1)).Sublist [name] := by
  unfold member
  split
  · exact List.Sublist.refl _
  · exact List.nil_sublist _

theorem nodup_entries (host : String) (message : Value) (moment : Moment) :
    ((record.entries host message moment).map (·.1)).Nodup := by
  have hraised : (((record.raised.map fun text => ("traceback", Value.text text)).toList).map
      (·.1)).Sublist ["traceback"] := by
    cases record.raised with
    | none => exact List.nil_sublist _
    | some text => exact List.Sublist.refl _
  have hthread : ((if record.thread == mainThread then [] else
      member "thread" record.thread).map (·.1)).Sublist ["thread"] := by
    split
    · exact List.nil_sublist _
    · exact sublist_member _ _
  have hnames : ["host", "name", "level", "filename", "message", "timestamp", "traceback",
    "process", "thread", "stack"].Nodup := by decide
  refine List.Nodup.sublist ?_ hnames
  simp only [entries, List.map_append]
  exact ((((List.Sublist.refl _).append hraised).append (sublist_member _ _)).append hthread).append
    (sublist_member _ _)

theorem sound_of_short {value : Value}
    (h : value = .null ∨ ∃ n, value = .int n ∧ Value.isShort n = true) :
    value.Sound ∧ value.isWritable = true := by
  obtain rfl | ⟨n, rfl, hshort⟩ := h
  · exact ⟨.null, rfl⟩
  · exact ⟨.int hshort, rfl⟩

theorem sound_of_mem_member {name : String} {value : Value}
    (h : value.Sound ∧ value.isWritable = true) :
    ∀ entry ∈ member name value, entry.2.Sound ∧ entry.2.isWritable = true := by
  unfold member
  split
  · exact List.forall_mem_singleton.mpr h
  · exact List.forall_mem_nil _

theorem sound_of_mem_entries (h : record.IsCall) (host text : String) (moment : Moment) :
    ∀ entry ∈ record.entries host (.text text) moment,
      entry.2.Sound ∧ entry.2.isWritable = true := by
  have htext : ∀ s, (Value.text s).Sound ∧ (Value.text s).isWritable = true :=
    fun s => ⟨.text s, rfl⟩
  have hstack : record.stack.Sound ∧ record.stack.isWritable = true := by
    obtain hnull | ⟨s, hs⟩ := h.stack
    · exact hnull ▸ ⟨.null, rfl⟩
    · exact hs ▸ htext s
  simp only [entries, List.forall_mem_append, List.forall_mem_cons]
  refine ⟨⟨⟨⟨⟨htext _, htext _, htext _, htext _, htext _, htext _, List.forall_mem_nil _⟩, ?_⟩,
    sound_of_mem_member (sound_of_short h.process)⟩, ?_⟩, sound_of_mem_member hstack⟩
  · cases record.raised with
    | none => exact List.forall_mem_nil _
    | some raised => exact List.forall_mem_singleton.mpr (htext raised)
  · split
    · exact List.forall_mem_nil _
    · exact sound_of_mem_member (sound_of_short h.thread)

theorem exists_line (h : record.IsCall) (host text : String) (moment : Moment) :
    ∃ line, (Value.record (record.entries host (.text text) moment)).serialize .standard =
      .ok line ∧ Holds line text := by
  obtain ⟨line, hline, hgraphic, htext, members, hread, hmembers⟩ :=
    Value.exists_serialize_record (nodup_entries host _ moment)
      (sound_of_mem_entries h host text moment)
  have hmessage : Keyed.find? "message" (record.entries host (.text text) moment) =
      some (.text text) := rfl
  exact ⟨line, hline, hgraphic, htext, members, hread, hmembers _ _ hmessage⟩

/-- The line of a record holds what the record says. There is a line just where the record says
something and its time is in the calendar. -/
theorem jsonLine_holds (host : String) (h : record.IsCall) :
    (∀ line, record.jsonLine host = .ok line → ∃ text, record.Says text ∧ Holds line text) ∧
    ((∃ line, record.jsonLine host = .ok line) ↔ ¬record.Unsayable ∧
      ∃ moment, Moment.ofTimestamp record.created = .ok moment) := by
  obtain ⟨text, hmessage, hsays, hsayable⟩ | ⟨⟨failure, hmessage⟩, hunsayable⟩ :=
    messageValue_cases h
  · cases hmoment : Moment.ofTimestamp record.created with
    | ok moment =>
      obtain ⟨line, hline, hholds⟩ := exists_line h host text moment
      have hjson : record.jsonLine host = .ok line := by
        rw [jsonLine, toValue, hmessage, hmoment]
        exact hline
      rw [hjson]
      refine ⟨?_, iff_of_true ⟨line, rfl⟩ ⟨hsayable, moment, rfl⟩⟩
      intro line' hline'
      exact ⟨text, hsays, Except.ok.inj hline' ▸ hholds⟩
    | error failure =>
      have hjson : record.jsonLine host = .error failure := by
        rw [jsonLine, toValue, hmessage, hmoment]
        rfl
      rw [hjson]
      exact ⟨nofun, iff_of_false nofun (by rintro ⟨-, _, hnone⟩; exact absurd hnone nofun)⟩
  · have hjson : record.jsonLine host = .error failure := by
      rw [jsonLine, toValue, hmessage]
      rfl
    rw [hjson]
    exact ⟨nofun, iff_of_false nofun fun hline => hline.1 hunsayable⟩

/-- The record of a call at the beginning of the epoch. -/
def ofCall (message arguments : Value) : Record where
  name := "some logger"
  level := "INFO"
  path := "dir/file.py"
  created := .int 0
  milliseconds := 0
  message := message
  arguments := arguments
  process := .int 7
  thread := mainThread
  stack := .null
  raised := none

theorem isCall_ofCall (template : String) (items : List Value) :
    (ofCall (.text template) (.tuple items)).IsCall where
  message := .inl ⟨template, rfl⟩
  arguments := .inr (.inl ⟨items, rfl⟩)
  process := .inr ⟨7, rfl, by decide +kernel⟩
  thread := .inr ⟨1, rfl, by decide +kernel⟩
  stack := .inl rfl

theorem jsonLine_holds_compiled :
    (ofCall (.text "Compiled %s") (.tuple [.text "rating:s"])).IsCall ∧
    ∃ line, (ofCall (.text "Compiled %s") (.tuple [.text "rating:s"])).jsonLine "testhost" =
      .ok line ∧ Holds line "Compiled rating:s" := by
  have h := isCall_ofCall "Compiled %s" [.text "rating:s"]
  obtain ⟨hholds, hexists⟩ := jsonLine_holds "testhost" h
  obtain ⟨_, -, -, hsayable⟩ | ⟨⟨_, hfails⟩, -⟩ := messageValue_cases h
  · obtain ⟨line, hline⟩ := hexists.mpr ⟨hsayable, _, rfl⟩
    obtain ⟨text, hsays, hline'⟩ := hholds line hline
    have htext : text = "Compiled rating:s" := by
      cases hsays with
      | alone _ hnone => exact absurd hnone nofun
      | filled hfills hfilled =>
        obtain ⟨rfl, rfl⟩ := hfills.unique ⟨rfl, rfl, rfl⟩
        exact (Except.ok.inj hfilled).symm
      | noticed hfills hfault =>
        obtain ⟨rfl, rfl⟩ := hfills.unique ⟨rfl, rfl, rfl⟩
        exact absurd hfault nofun
    exact ⟨h, line, hline, htext ▸ hline'⟩
  · exact absurd hfails nofun

/-- The notice would have quoted the byte that is no text. -/
theorem undecodable_argument_loses_line :
    (ofCall (.text "%s") (.tuple [.bytes [0xff]])).IsCall ∧
    ∀ line, (ofCall (.text "%s") (.tuple [.bytes [0xff]])).jsonLine "testhost" ≠ .ok line := by
  have hlost : (ofCall (.text "%s") (.tuple [.bytes [0xff]])).jsonLine "testhost" =
    .error .undecodable := rfl
  refine ⟨isCall_ofCall _ _, ?_⟩
  intro line hline
  exact absurd (hlost.symm.trans hline) nofun

end Log.Record

end BoardSearch
