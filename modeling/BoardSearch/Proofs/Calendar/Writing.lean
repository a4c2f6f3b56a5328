import BoardSearch.Proofs.Calendar.Disjoint

/-!
# Reading back dates and times

A date and a time of day are written under a layout with numbers for the letters after its
percent signs. Each of the layouts of searches reads back what is written under it, and no
layout that is tried before it accepts that.

## Main definitions

* `Layout.write`: what is written under a layout;
* `Layout.Describes`: pieces are those of a layout, and are written as the layout is.

## Main statements

* `Layout.readTime?_write`: what is written under a layout of searches is read under that layout;
* `Temporal.readMoment_write`: the moment that was written is read.
-/

namespace BoardSearch

namespace Layout

/-! ## Writing -/

section

variable (date : Date) (time : TimeOfDay)

/-- What a letter after a percent sign is written as. -/
def directive : Char → List Char
  | 'Y' => Date.padded 4 date.year
  | 'm' => Date.padded 2 date.month
  | 'd' => Date.padded 2 date.day
  | 'H' => Date.padded 2 time.hour
  | 'M' => Date.padded 2 time.minute
  | 'S' => Date.padded 2 time.second
  | c => [c]

/-- A date and a time of day under a layout. -/
def writeChars : List Char → List Char
  | '%' :: c :: layout => directive date time c ++ writeChars layout
  | c :: layout => c :: writeChars layout
  | [] => []

/-- The text of a date and a time of day under a layout. -/
def write (layout : String) : String := String.ofList (writeChars date time layout.toList)

/-- The number that a field shows. -/
def shown : Field → Nat
  | .year => date.year
  | .month => date.month
  | .day => date.day
  | .hour => time.hour
  | .minute => time.minute
  | .second => time.second
  | _ => 0

end

theorem allows_shown (date : Date) (time : TimeOfDay) :
    ∀ field ∈ writtenFields, field.allows (shown date time field) = true := by
  obtain ⟨_, hyear, hmonth, hmonth', hday, hday'⟩ := date.isDate
  have hlong : daysInMonth date.year date.month ≤ 31 := by
    unfold daysInMonth
    split
    · split <;> decide
    all_goals decide
  have hhour := time.hour_lt
  have hminute := time.minute_lt
  have hsecond := time.second_lt
  simp only [writtenFields, List.forall_mem_cons, List.not_mem_nil, false_implies, implies_true,
    and_true, Field.allows, shown, decide_eq_true_eq, Bool.and_eq_true]
  omega

/-- The pieces are those of a layout, and stand for what is written under it. -/
structure Describes (pieces : List Piece) (layout : String) : Prop where
  ofText : ofText layout = .ok pieces
  separated : separated pieces = true
  fields : ∀ field ∈ Field.all, .field field ∈ pieces → field ∈ writtenFields
  chars : ∀ date time, writeChars date time layout.toList =
    pieces.flatMap (Piece.chars (shown date time))

/-! ## One layout -/

section

variable {pieces : List Piece} {layout text : String}

theorem readMoment_of_read? (hpieces : ofText layout = .ok pieces) {readings : List Reading}
    (hread : read? pieces text.toList = some (readings, []))
    (hlisted : readings.findSome? Reading.unlisted? = none) :
    readMoment layout text = (Parts.ofReadings readings).moment := by
  simp only [readMoment, hpieces, bind, Except.bind, hread, hlisted]

variable {date : Date} {time : TimeOfDay}

theorem toList_write (h : Describes pieces layout) :
    (write date time layout).toList = pieces.flatMap (Piece.chars (shown date time)) := by
  rw [write, String.toList_ofList, h.chars]

theorem Describes.read? (h : Describes pieces layout) (rest : List Char) :
    read? pieces (pieces.flatMap (Piece.chars (shown date time)) ++ rest) =
      some (pieces.filterMap (Piece.reading? (shown date time)), rest) :=
  read?_chars h.separated
    (fun field hfield => allows_shown date time field (h.fields field field.mem_all hfield)) rest

theorem readMoment_of_describes (h : Describes pieces layout) :
    readMoment layout (write date time layout) =
      (Parts.ofReadings (pieces.filterMap (Piece.reading? (shown date time)))).moment := by
  apply readMoment_of_read? h.ofText
  · rw [toList_write h, ← h.read? [], List.append_nil]
  · rw [List.findSome?_eq_none_iff]
    intro reading hreading
    obtain ⟨piece, hpiece, hfield⟩ := List.mem_filterMap.mp hreading
    cases piece with
    | field field =>
      obtain rfl := Option.some.inj hfield
      have hnames := field.names_of_mem_writtenFields (h.fields field field.mem_all hpiece)
      simp [Reading.unlisted?, hnames]
    | _ => simp [Piece.reading?] at hfield

end

/-! ## The layouts of searches -/

theorem describes_searched : ∀ entry ∈ searched, Describes entry.2 entry.1 := by
  have hseparated : ∀ entry ∈ searched, separated entry.2 = true := by decide +kernel
  have hfields : ∀ entry ∈ searched, ∀ field ∈ Field.all, .field field ∈ entry.2 →
      field ∈ writtenFields := by decide +kernel
  have hchars : ∀ entry ∈ searched, ∀ date time, writeChars date time entry.1.toList =
      entry.2.flatMap (Piece.chars (shown date time)) := by
    simp only [searched, dateDescriptions, clockDescriptions, List.forall_mem_flatMap,
      List.forall_mem_map, List.forall_mem_cons, List.not_mem_nil, false_implies, implies_true,
      and_true]
    refine ⟨⟨?_, ?_, ?_⟩, ⟨?_, ?_, ?_⟩, ?_, ?_, ?_⟩ <;> exact fun date time => rfl
  intro entry hentry
  exact ⟨ofText_searched entry hentry, hseparated entry hentry, hfields entry hentry,
    hchars entry hentry⟩

/-- What is written under a layout of searches is read as what its fields show. -/
theorem readTime?_write {entry : String × List Piece} (hentry : entry ∈ searched) {date : Date}
    {time : TimeOfDay} {moment : Moment}
    (hmoment : (Parts.ofReadings (entry.2.filterMap
      (Piece.reading? (shown date time)))).moment = .ok moment) :
    readTime? (write date time entry.1) = some moment := by
  have hlayout : entry.1 ∈ searchLayouts := by
    rw [← map_searched]
    exact List.mem_map_of_mem hentry
  have hread : readMoment entry.1 (write date time entry.1) = .ok moment := by
    rw [readMoment_of_describes (describes_searched entry hentry), hmoment]
  exact (findSome?_readMoment_eq_some_iff (List.Subset.refl _)).mpr ⟨entry.1, hlayout, hread⟩

/-- The parts of a date and of a time in whole seconds. -/
def Parts.ofMoment (date : Date) (time : TimeOfDay) : Parts :=
  { unread with
    year := some date.year, month := date.month, day := date.day,
    hour := time.hour, minute := time.minute, second := time.second }

theorem Parts.moment_ofMoment (date : Date) {time : TimeOfDay} (hwhole : time.microsecond = 0) :
    (ofMoment date time).moment = .ok ⟨date, time, .utc⟩ := by
  have hdate : Date.of? date.year date.month date.day = some date := dif_pos date.isDate
  have htime : TimeOfDay.of? time.hour time.minute time.second 0 = some time := by
    obtain ⟨hour, minute, second, microsecond, hhour, hminute, hsecond, hmicrosecond⟩ := time
    obtain rfl : microsecond = 0 := hwhole
    exact dif_pos ⟨hhour, hminute, hsecond, hmicrosecond⟩
  simp [ofMoment, moment, Parts.date, weekFault?, dateInYear, dateOf, unread, hdate, htime]

/-- The fields of a layout of searches show all parts of a date, and of a time if there is one. -/
theorem ofReadings_shown (date : Date) (time : TimeOfDay) : ∀ day ∈ dateDescriptions,
    Parts.ofReadings (day.2.filterMap (Piece.reading? (shown date time))) =
      .ofMoment date .first ∧
    ∀ clock ∈ clockDescriptions,
      Parts.ofReadings ((day.2 ++ clock.2).filterMap (Piece.reading? (shown date time))) =
        .ofMoment date time := by
  simp only [dateDescriptions, clockDescriptions, List.forall_mem_cons, List.not_mem_nil,
    false_implies, implies_true, and_true]
  exact ⟨⟨rfl, rfl, rfl⟩, ⟨rfl, rfl, rfl⟩, rfl, rfl, rfl⟩

end Layout

namespace Temporal

open Layout (write)

/-- A date with a time of day in whole seconds is read back as the moment in UTC from what is
written for it under each layout of searches; and under the layouts without a time of day, the
date is read as its first moment. -/
theorem readMoment_write (date : Date) (time : TimeOfDay) (hwhole : time.microsecond = 0) :
    ∀ day ∈ ["%Y-%m-%d", "%m/%d/%Y", "%Y%m%d"],
      readMoment (write date time day) = .ok ⟨date, .first, .utc⟩ ∧
      ∀ clock ∈ [" %H:%M:%S", "T%H:%M:%S"],
        readMoment (write date time (day ++ clock)) = .ok ⟨date, time, .utc⟩ := by
  intro layout hlayout
  obtain ⟨day, hday, rfl⟩ : ∃ day ∈ Layout.dateDescriptions, day.1 = layout :=
    List.mem_map.mp hlayout
  obtain ⟨hdate, htimes⟩ := Layout.ofReadings_shown date time day hday
  constructor
  · have hentry : day ∈ Layout.searched := by
      refine List.mem_flatMap.mpr ⟨day, hday, List.mem_map.mpr ⟨_, List.mem_cons_self, ?_⟩⟩
      rw [String.append_empty, List.append_nil]
    have hmoment := Layout.Parts.moment_ofMoment date (rfl : TimeOfDay.first.microsecond = 0)
    rw [← hdate] at hmoment
    rw [readMoment, Layout.readTime?_write hentry hmoment]
  · intro layout hlayout
    obtain ⟨clock, hclock, rfl⟩ : ∃ clock ∈ Layout.clockDescriptions, clock.1 = layout :=
      List.mem_map.mp hlayout
    have hentry : (day.1 ++ clock.1, day.2 ++ clock.2) ∈ Layout.searched :=
      List.mem_flatMap.mpr ⟨day, hday,
        List.mem_map.mpr ⟨clock, List.mem_cons_of_mem _ hclock, rfl⟩⟩
    have hmoment := Layout.Parts.moment_ofMoment date hwhole
    rw [← htimes clock hclock] at hmoment
    rw [readMoment, Layout.readTime?_write hentry hmoment]

/-- A leap day of a year with a single digit. -/
theorem readMoment_write_leapDay :
    (⟨23, 5, 9, 0, by decide, by decide, by decide, by decide⟩ : TimeOfDay).microsecond = 0 ∧
    readMoment "0004-02-29T23:05:09" =
      .ok ⟨⟨4, 2, 29, by decide⟩,
        ⟨23, 5, 9, 0, by decide, by decide, by decide, by decide⟩, .utc⟩ ∧
    readMoment "00040229" = .ok ⟨⟨4, 2, 29, by decide⟩, .first, .utc⟩ := by
  have hread := readMoment_write ⟨4, 2, 29, by decide⟩
    ⟨23, 5, 9, 0, by decide, by decide, by decide, by decide⟩ rfl
  refine ⟨rfl, ?_, ?_⟩
  · exact (hread "%Y-%m-%d" (by decide)).2 "T%H:%M:%S" (by decide)
  · exact (hread "%Y%m%d" (by decide)).1

end Temporal

end BoardSearch
