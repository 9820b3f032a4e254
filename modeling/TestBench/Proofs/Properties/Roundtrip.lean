import TestBench.Proofs.Disk
import TestBench.Proofs.Properties.Escaping
import TestBench.Proofs.Text.Lines

/-!
Properties files read back as they were written.

- `readLine?_entryLine` and `logicalLines_entries`: each entry is a line of its own and reads as itself,
- `isWritable_entryLine` and `isWritable_timestamp`: every line fits into Latin-1 and stays one line,
- `load_text`: a whole file,
- `load_written` and `write_load`: a file on a disk.
-/
namespace TestBench.Properties
set_option autoImplicit false
open TestBench.Text

/-! ## Entries -/

theorem readLine?_entryLine (entry : String × String) :
    readLine? (entryLine entry) = some (utf16 entry.1, utf16 entry.2) := by
  have apart : splitKey (entryLine entry) =
      (escapeKey entry.1.toList, '=' :: escapeValue entry.2.toList) := by
    rw [entryLine, (escapeKey_closed _).splitKey_append]
    simp [splitKey, endsKey]
  have value : dropSeparator ('=' :: escapeValue entry.2.toList) = escapeValue entry.2.toList :=
    dropGap_escapeValue entry.2.toList
  rw [readLine?, apart]
  simp only [value, escapeKey, unescape_flatMap, unescape_escapeValue]
  rfl

/-! ## Lines -/

/-- A line that is read as it stands: nothing in front is dropped, it is no comment, and it does
not go on in the next line. -/
structure IsEntryLine (line : List Char) : Prop where
  solid : line.dropWhile isGap = line
  read : isIgnored line = false
  ends : endsOpen line = false

theorem isEntryLine_entryLine (entry : String × String) : IsEntryLine (entryLine entry) := by
  obtain ⟨first, rest, line, solid, read⟩ : ∃ first rest, entryLine entry = first :: rest ∧
      isGap first = false ∧ first ∉ ['#', '!'] := by
    -- An empty key leaves the separator in front.
    rw [entryLine, escapeKey]
    cases entry.1.toList with
    | nil => exact ⟨_, _, rfl, by decide⟩
    | cons c others =>
      obtain ⟨first, rest, text, starts⟩ := (isEscape_escapeChar false c).starts
      rw [List.flatMap_cons, text]
      exact ⟨first, _, rfl, starts⟩
  refine ⟨?_, ?_, ?_⟩
  · rw [line, List.dropWhile_cons_of_neg (by simp [solid])]
  · rw [line]
    simpa [isIgnored] using read
  · have value : endsOpen (escapeValue entry.2.toList ++ []) = false :=
      (escapeValue_closed entry.2.toList).endsOpen_append
    rw [List.append_nil] at value
    rw [entryLine, (escapeKey_closed _).endsOpen_append, endsOpen, value]
    decide

theorem logicalLines_entry {line : List Char} (h : IsEntryLine line) (rest : List (List Char)) :
    logicalLines none (line :: rest) = line :: logicalLines none rest := by
  simp [logicalLines, h.solid, h.read, h.ends]

theorem logicalLines_comment (comment : List Char) (rest : List (List Char)) :
    logicalLines none (('#' :: comment) :: rest) = logicalLines none rest := by
  simp [logicalLines, List.dropWhile, isGap, isIgnored]

theorem logicalLines_entries {lines : List (List Char)} (h : ∀ line ∈ lines, IsEntryLine line) :
    logicalLines none (lines ++ [[]]) = lines := by
  induction lines with
  | nil => rfl
  | cons line rest ih =>
    rw [List.forall_mem_cons] at h
    rw [List.cons_append, logicalLines_entry h.1, ih h.2]

/-! ## Texts -/

/-- A line that can be written: every character has an octet, and none ends the line. -/
def IsWritable (line : List Char) : Prop :=
  ∀ c ∈ line, isLatin1 c = true ∧ c ≠ '\r' ∧ c ≠ '\n'

instance (line : List Char) : Decidable (IsWritable line) :=
  List.decidableBAll _ line

theorem isWritable_append {before after : List Char} :
    IsWritable (before ++ after) ↔ IsWritable before ∧ IsWritable after :=
  List.forall_mem_append

theorem IsGraphic.writable {c : Char} (graphic : IsGraphic c) :
    isLatin1 c = true ∧ c ≠ '\r' ∧ c ≠ '\n' := by
  have small : c.toNat ≤ 126 := graphic.2
  refine ⟨by simp only [isLatin1, decide_eq_true_eq]; omega, ?_, ?_⟩
  · rintro rfl
    exact absurd graphic (by decide)
  · rintro rfl
    exact absurd graphic (by decide)

theorem isWritable_entryLine (entry : String × String) : IsWritable (entryLine entry) := by
  have each (bare : Bool) (c : Char) : IsWritable (escapeChar bare c) :=
    fun d member => ((isEscape_escapeChar bare c).graphic d member).writable
  have all (bare : Bool) (text : List Char) : IsWritable (text.flatMap (escapeChar bare)) := by
    intro d member
    obtain ⟨c, -, inside⟩ := List.mem_flatMap.mp member
    exact each bare c d inside
  have value : IsWritable (escapeValue entry.2.toList) := by
    cases entry.2.toList with
    | nil => exact all true []
    | cons c rest => exact isWritable_append.mpr ⟨each false c, all true rest⟩
  have separator : IsWritable ['='] := by decide
  exact isWritable_append.mpr ⟨all false _, isWritable_append.mpr ⟨separator, value⟩⟩

/-! ## Dates -/

theorem isWritable_nat (value : Nat) : IsWritable (toString value).toList := by
  intro c member
  have digit : c ∈ Nat.toDigits 10 value := by simpa using member
  have digit : c.isDigit = true := Nat.isDigit_of_mem_toDigits (by decide) (by decide) digit
  simp only [Char.isDigit, Bool.and_eq_true, decide_eq_true_eq] at digit
  have graphic : IsGraphic c :=
    ⟨Nat.le_trans (by decide) digit.1, Nat.le_trans digit.2 (by decide)⟩
  exact graphic.writable

theorem isWritable_int (value : Int) : IsWritable (toString value).toList := by
  cases value with
  | ofNat value => exact isWritable_nat value
  | negSucc value =>
    have sign : IsWritable ['-'] := by decide
    have text : (toString (Int.negSucc value)).toList = ['-'] ++ (toString (value + 1)).toList :=
      String.toList_append
    rw [text]
    exact isWritable_append.mpr ⟨sign, isWritable_nat _⟩

theorem isWritable_getD {names : List String} (h : ∀ name ∈ names, IsWritable name.toList)
    (place : Nat) : IsWritable (names.getD place "").toList := by
  rw [List.getD_eq_getElem?_getD]
  cases found : names[place]? with
  | none => exact fun c member => by cases member
  | some name => exact h name (List.mem_of_getElem? found)

theorem isWritable_timestamp (moment : Int) : IsWritable (Timestamp.text moment).toList := by
  have twoDigits (value : Nat) : IsWritable (Timestamp.twoDigits value).toList := by
    rw [Timestamp.twoDigits, String.toList_append]
    exact isWritable_append.mpr ⟨isWritable_nat _, isWritable_nat _⟩
  have weekday (place : Nat) : IsWritable (Timestamp.weekdays.getD place "").toList :=
    isWritable_getD (by decide) place
  have month (place : Nat) : IsWritable (Timestamp.months.getD place "").toList :=
    isWritable_getD (by decide) place
  have blank : IsWritable " ".toList := by decide
  have colon : IsWritable ":".toList := by decide
  have zone : IsWritable " UTC ".toList := by decide
  simp only [Timestamp.text, String.toList_append, isWritable_append]
  simp only [twoDigits, weekday, month, blank, colon, zone, isWritable_int, and_self]

/-! ## Files -/

theorem unifyLineEnds_of_not_mem {content : List Char} (h : '\r' ∉ content) :
    unifyLineEnds content = content := by
  induction content with
  | nil => rfl
  | cons c rest ih =>
    rw [List.mem_cons, not_or] at h
    have other : c ≠ '\r' := fun same => h.1 same.symm
    rw [unifyLineEnds, if_neg other, ih h.2]
    exact fun _ same => absurd same other

/-- Lines that all end in a line feed: the last of them is followed by nothing. -/
theorem splitOn_flatMap {lines : List (List Char)} (h : ∀ line ∈ lines, '\n' ∉ line) :
    splitOn '\n' (lines.flatMap fun line => line ++ ['\n']) = lines ++ [[]] := by
  induction lines with
  | nil => rfl
  | cons line rest ih =>
    rw [List.forall_mem_cons] at h
    rw [List.flatMap_cons, List.append_assoc, List.singleton_append, splitOn_append,
      splitOn_of_not_mem h.1, ih h.2]
    rfl

theorem naturalLines_writable {lines : List (List Char)} (h : ∀ line ∈ lines, IsWritable line) :
    naturalLines (lines.flatMap fun line => line ++ ['\n']) = lines ++ [[]] := by
  have plain : '\r' ∉ lines.flatMap fun line => line ++ ['\n'] := by
    intro member
    obtain ⟨line, inside, member⟩ := List.mem_flatMap.mp member
    rcases List.mem_append.mp member with body | feed
    · exact (h line inside _ body).2.1 rfl
    · exact absurd feed (by decide)
  have whole : ∀ line ∈ lines, '\n' ∉ line := by
    intro line inside member
    exact (h line inside _ member).2.2 rfl
  rw [naturalLines, unifyLineEnds_of_not_mem plain, splitOn_flatMap whole]

theorem decode_encode {content : List Char} {octets : List UInt8}
    (h : encode content = .ok octets) : decode octets = String.ofList content := by
  unfold encode at h
  split at h
  next latin =>
    cases h
    rw [List.all_eq_true] at latin
    have back : ∀ c ∈ content, Char.ofNat (UInt8.ofNat c.toNat).toNat = c := by
      intro c member
      have small : c.toNat < 256 := by simpa [isLatin1] using latin c member
      rw [UInt8.toNat_ofNat', Nat.mod_eq_of_lt small, Char.ofNat_toNat]
    rw [decode, List.map_map]
    exact congrArg String.ofList ((List.map_congr_left back).trans (List.map_id' content))
  · cases h

theorem encode_writable {lines : List (List Char)} (h : ∀ line ∈ lines, IsWritable line) :
    ∃ octets, encode (lines.flatMap fun line => line ++ ['\n']) = .ok octets := by
  have latin : (lines.flatMap fun line => line ++ ['\n']).all isLatin1 = true := by
    rw [List.all_eq_true]
    intro c member
    obtain ⟨line, inside, member⟩ := List.mem_flatMap.mp member
    rcases List.mem_append.mp member with body | feed
    · exact (h line inside c body).1
    · rw [List.mem_singleton.mp feed]
      decide
  exact ⟨_, if_pos latin⟩

theorem mapM_readLine? (entries : List (String × String)) :
    (entries.map entryLine).mapM readLine? =
      some (entries.map fun entry => (utf16 entry.1, utf16 entry.2)) := by
  induction entries with
  | nil => rfl
  | cons entry rest ih =>
    rw [List.map_cons, List.mapM_cons, readLine?_entryLine, ih]
    rfl

/-- A properties file can be written, and it loads as its entries. -/
theorem load_text {comment : String} (writable : IsWritable comment.toList) (moment : Int)
    (entries : List (String × String)) :
    ∃ octets, encode (text comment moment entries) = .ok octets ∧
      load octets = some (entries.map fun entry => (utf16 entry.1, utf16 entry.2)) := by
  have lines : ∀ line ∈ ('#' :: comment.toList) :: ('#' :: (Timestamp.text moment).toList) ::
      entries.map entryLine, IsWritable line := by
    have mark : IsWritable ['#'] := by decide
    rw [List.forall_mem_cons, List.forall_mem_cons, List.forall_mem_map]
    refine ⟨?_, ?_, fun entry _ => isWritable_entryLine entry⟩
    · exact isWritable_append.mpr ⟨mark, writable⟩
    · exact isWritable_append.mpr ⟨mark, isWritable_timestamp moment⟩
  obtain ⟨octets, encoded⟩ := encode_writable lines
  refine ⟨octets, encoded, ?_⟩
  have whole : ∀ line ∈ entries.map entryLine, IsEntryLine line := by
    rw [List.forall_mem_map]
    exact fun entry _ => isEntryLine_entryLine entry
  have filled : (entries.map entryLine).filter (· ≠ []) = entries.map entryLine := by
    rw [List.filter_eq_self]
    intro line member
    have read := (whole line member).read
    cases line with
    | nil => cases read
    | cons c rest => rfl
  rw [load, decode_encode encoded, String.toList_ofList, naturalLines_writable lines]
  simp only [List.cons_append, logicalLines_comment]
  rw [logicalLines_entries whole, filled, mapM_readLine?]

theorem write_encoded {directory : Path} {entries : List (String × String)} {comment : String}
    {host : Host} {emptied : Disk} {octets : List UInt8}
    (begun : host.disk.write (directory.child fileName) [] = .ok emptied)
    (encoded : encode (text comment host.epoch entries) = .ok octets) :
    ∃ after, write directory entries comment host = (.ok (directory.child fileName), after) ∧
      after.disk.read (directory.child fileName) = .ok octets := by
  obtain ⟨written, again, holds⟩ := Disk.write_again begun octets
  refine ⟨{ host with disk := written }, ?_, holds⟩
  unfold write
  simp only [begun, encoded, again]

/-- A file that has been written loads as its entries. -/
theorem load_written {directory file : Path} {entries : List (String × String)} {comment : String}
    {host after : Host} (writable : IsWritable comment.toList)
    (h : write directory entries comment host = (.ok file, after)) :
    ∃ octets, after.disk.read (directory.child fileName) = .ok octets ∧
      load octets = some (entries.map fun entry => (utf16 entry.1, utf16 entry.2)) := by
  obtain ⟨octets, encoded, loads⟩ := load_text writable host.epoch entries
  simp only [write, encoded] at h
  split at h
  · cases h
  · split at h
    · cases h
    next final =>
      cases h
      exact ⟨octets, Disk.write_reads final, loads⟩

/-- A file in a directory that has room for it is written, and it loads as exactly the entries, in
their order, no two of them with one key. The units that are loaded are those of the texts that were
to be written. -/
theorem write_load {directory : Path} {above : Location} {entries : List (String × String)}
    {comment : String} {host : Host} (found : host.disk.locate directory = .ok above)
    (standing : host.disk.isDirectoryAt above = true)
    (fits : Disk.badPath? (directory.child fileName) = none)
    (free : host.disk.isDirectoryAt (above ++ [fileName]) = false)
    (writable : IsWritable comment.toList) (distinct : (entries.map Prod.fst).Nodup) :
    ∃ after octets loaded,
      write directory entries comment host = (.ok (directory.child fileName), after) ∧
      after.disk.read (directory.child fileName) = .ok octets ∧
      load octets = some loaded ∧
      loaded = entries.map (fun entry => (utf16 entry.1, utf16 entry.2)) ∧
      loaded.map (fun entry => (textOf? entry.1, textOf? entry.2)) =
        entries.map (fun entry => (some entry.1, some entry.2)) ∧
      (loaded.map Prod.fst).Nodup := by
  obtain ⟨emptied, begun⟩ := Disk.write_child found standing (by decide) (by decide) fits free []
  obtain ⟨octets, encoded, loads⟩ := load_text writable host.epoch entries
  obtain ⟨after, passes, holds⟩ := write_encoded begun encoded
  refine ⟨after, octets, _, passes, holds, loads, rfl, ?_, ?_⟩
  · rw [List.map_map]
    simp only [Function.comp_def, textOf?_utf16]
  · have keys : (entries.map fun entry => (utf16 entry.1, utf16 entry.2)).map Prod.fst =
        (entries.map Prod.fst).map utf16 := by
      rw [List.map_map, List.map_map]
      rfl
    rw [keys]
    exact List.Pairwise.map utf16 (fun a b apart same => apart (utf16_injective same)) distinct

/-- A disk with a directory for classes. -/
def sampleHost : Host :=
  .fresh ⟨[(["classes"], .directory)], some []⟩ 951782400 []

def sampleEntries : List (String × String) :=
  [("a key", "x=y:z"), ("", " \\caf\u00e9\n"), ("mood", String.ofList [Char.ofNat 0x1F600])]

theorem write_load_sample :
    ∃ after octets loaded,
      write (.parse "classes") sampleEntries "caf\u00e9 #1\\" sampleHost =
        (.ok ((Path.parse "classes").child fileName), after) ∧
      after.disk.read ((Path.parse "classes").child fileName) = .ok octets ∧
      load octets = some loaded ∧
      loaded = sampleEntries.map (fun entry => (utf16 entry.1, utf16 entry.2)) ∧
      loaded.map (fun entry => (textOf? entry.1, textOf? entry.2)) =
        sampleEntries.map (fun entry => (some entry.1, some entry.2)) ∧
      (loaded.map Prod.fst).Nodup := by
  have found : sampleHost.disk.locate (.parse "classes") = .ok ["classes"] := by rfl
  exact write_load found (by decide +kernel) (by decide +kernel) (by decide +kernel)
    (by decide +kernel) (by decide +kernel)

end TestBench.Properties
