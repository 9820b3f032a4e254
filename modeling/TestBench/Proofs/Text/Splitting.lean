import TestBench.Proofs.Text.Decoding
import TestBench.Proofs.Text.Lines

/-!
Lines of octets and lines of text. Output is taken apart before it is decoded, and this comes to the
same as taking the decoded text apart.

- `splitOn_decode` and `dropFinal_decode`: neither a line feed nor a carriage return is ever made or
  lost by decoding,
- `outputLines_decode`: the lines of output are the lines of its text,
- `written`: lines with their endings,
- `outputLines_written`: lines are read back, and every text is its lines with one choice of
  endings.
-/
namespace TestBench.Text
set_option autoImplicit false
open Utf8 (decode encode Reads)

/-! ## Decoding lines -/

theorem reads_decode (octets : List UInt8) : Reads octets (decode octets) :=
  Utf8.reads_iff.mpr rfl

theorem not_mem_decode {octets : List UInt8} (h : 10 ∉ octets) : '\n' ∉ decode octets :=
  fun member => h ((reads_decode octets).mem (by decide) member)

/-- No line feed is made or lost by decoding. -/
theorem splitOn_decode (octets : List UInt8) :
    splitOn '\n' (decode octets) = (splitOn 10 octets).map decode := by
  by_cases feed : 10 ∈ octets
  · obtain ⟨before, after, split, first⟩ := List.eq_append_cons_of_mem feed
    have shorter : after.length < octets.length := by
      simp +arith [split]
    have cut : decode (before ++ 10 :: after) = decode before ++ '\n' :: decode after :=
      Utf8.decode_append_ascii (by decide) before after
    rw [split, cut, splitOn_append, splitOn_append, splitOn_of_not_mem first,
      splitOn_of_not_mem (not_mem_decode first), splitOn_decode after, List.map_append]
    rfl
  · rw [splitOn_of_not_mem feed, splitOn_of_not_mem (not_mem_decode feed)]
    rfl
termination_by octets.length

/-- No carriage return at the end is made or lost by decoding. -/
theorem dropFinal_decode (line : List UInt8) :
    dropFinal '\r' (decode line) = decode (dropFinal 13 line) := by
  by_cases last : line.getLast? = some 13
  · obtain ⟨front, rfl⟩ := List.getLast?_eq_some_iff.mp last
    have cut : decode (front ++ [13]) = decode front ++ ['\r'] :=
      Utf8.decode_append_ascii (by decide) front []
    rw [cut, dropFinal_concat, dropFinal_concat]
  · have other : (decode line).getLast? ≠ some '\r' := fun same =>
      last ((reads_decode line).getLast? (by decide) same)
    rw [dropFinal_of_ne last, dropFinal_of_ne other]

theorem isEmpty_decode (line : List UInt8) : (decode line).isEmpty = line.isEmpty := by
  cases line with
  | nil => rfl
  | cons octet rest =>
    cases read : decode (octet :: rest) with
    | nil => cases (Utf8.reads_iff.mpr read).eq_nil
    | cons c text => rfl

theorem linesBy_decode (octets : List UInt8) :
    linesBy '\n' '\r' (decode octets) = (rawLines octets).map decode := by
  have last : ((splitOn 10 octets).map decode).getLast?.getD [] =
      decode ((splitOn 10 octets).getLast?.getD []) := by
    rw [List.getLast?_map]
    cases (splitOn 10 octets).getLast? <;> rfl
  have front : ((splitOn 10 octets).dropLast.map decode).map (dropFinal '\r') =
      ((splitOn 10 octets).dropLast.map (dropFinal 13)).map decode := by
    rw [List.map_map, List.map_map]
    exact List.map_congr_left fun line _ => dropFinal_decode line
  simp only [linesBy, rawLines]
  rw [splitOn_decode, last, isEmpty_decode, ← List.map_dropLast, front, List.map_append]
  split <;> rfl

/-- The lines of output are the lines of its text. -/
theorem outputLines_eq (octets : List UInt8) :
    outputLines octets = (linesBy '\n' '\r' (decode octets)).map String.ofList := by
  rw [linesBy_decode, List.map_map]
  rfl

/-- Output may be taken apart before it is decoded or afterwards. Its octets are read as one text only,
and its lines are the lines of that text. -/
theorem outputLines_decode (octets : List UInt8) :
    (∀ text, Reads octets text ↔ text = decode octets) ∧
      outputLines octets = (linesBy '\n' '\r' (decode octets)).map String.ofList := by
  refine ⟨fun text => ?_, outputLines_eq octets⟩
  rw [Utf8.reads_iff]
  exact eq_comm

/-! ## Lines with their endings -/

/-- How a line ends: with a line feed, with a carriage return and a line feed, or not at all. -/
inductive Ending where
  | feed
  | carriageFeed
  | missing
deriving DecidableEq, Repr

def Ending.text : Ending → List Char
  | feed => ['\n']
  | carriageFeed => ['\r', '\n']
  | missing => []

/-- The endings that lines can have. Only the last line can be without one, and then it is not empty. A
carriage return right before a line feed belongs to the ending. -/
inductive Ended : List String → List Ending → Prop where
  | nil : Ended [] []
  | missing {line : String} (something : line ≠ "") : Ended [line] [.missing]
  | feed {line : String} {lines : List String} {endings : List Ending}
      (plain : line.toList.getLast? ≠ some '\r') (later : Ended lines endings) :
      Ended (line :: lines) (.feed :: endings)
  | carriageFeed {line : String} {lines : List String} {endings : List Ending}
      (later : Ended lines endings) : Ended (line :: lines) (.carriageFeed :: endings)

/-- Lines as they are written, each with its ending. -/
def written : List String → List Ending → List Char
  | line :: lines, ending :: endings => line.toList ++ ending.text ++ written lines endings
  | _, _ => []

theorem written_feed (line : String) (lines : List String) (endings : List Ending) :
    written (line :: lines) (.feed :: endings) = line.toList ++ '\n' :: written lines endings := by
  simp [written, Ending.text]

theorem written_carriageFeed (line : String) (lines : List String) (endings : List Ending) :
    written (line :: lines) (.carriageFeed :: endings) =
      (line.toList ++ ['\r']) ++ '\n' :: written lines endings := by
  simp [written, Ending.text]

theorem written_missing (line : String) : written [line] [.missing] = line.toList := by
  simp [written, Ending.text]

theorem linesBy_written {lines : List String} {endings : List Ending}
    (plain : ∀ line ∈ lines, '\n' ∉ line.toList) (ended : Ended lines endings) :
    linesBy '\n' '\r' (written lines endings) = lines.map String.toList := by
  induction ended with
  | nil => rfl
  | @missing line something =>
    have some : line.toList.isEmpty = false := by simpa using something
    rw [written_missing, linesBy_of_not_mem (plain line List.mem_cons_self), some]
    rfl
  | @feed line lines endings kept later ih =>
    rw [List.forall_mem_cons] at plain
    rw [written_feed, linesBy_append, splitOn_of_not_mem plain.1, ih plain.2]
    simp [dropFinal_of_ne kept]
  | @carriageFeed line lines endings later ih =>
    rw [List.forall_mem_cons] at plain
    have inner : '\n' ∉ line.toList ++ ['\r'] := by simp [plain.1]
    rw [written_carriageFeed, linesBy_append, splitOn_of_not_mem inner, ih plain.2]
    simp [dropFinal_concat]

/-- Every text is its lines, written with some endings. -/
theorem exists_written (text : List Char) :
    ∃ lines endings, linesBy '\n' '\r' text = lines.map String.toList ∧
      (∀ line ∈ lines, '\n' ∉ line.toList) ∧ Ended lines endings ∧
      written lines endings = text := by
  by_cases feed : '\n' ∈ text
  · obtain ⟨before, after, split, first⟩ := List.eq_append_cons_of_mem feed
    have shorter : after.length < text.length := by
      simp +arith [split]
    obtain ⟨lines, endings, found, plain, ended, same⟩ := exists_written after
    have rest : linesBy '\n' '\r' text =
        dropFinal '\r' before :: lines.map String.toList := by
      rw [split, linesBy_append, splitOn_of_not_mem first, found]
      rfl
    by_cases carriage : before.getLast? = some '\r'
    · obtain ⟨front, rfl⟩ := List.getLast?_eq_some_iff.mp carriage
      refine ⟨String.ofList front :: lines, .carriageFeed :: endings, ?_, ?_, .carriageFeed ended, ?_⟩
      · rw [rest, dropFinal_concat, List.map_cons, String.toList_ofList]
      · rw [List.forall_mem_cons, String.toList_ofList]
        exact ⟨fun member => first (List.mem_append_left _ member), plain⟩
      · rw [written_carriageFeed, String.toList_ofList, same, split]
    · refine ⟨String.ofList before :: lines, .feed :: endings, ?_, ?_, .feed ?_ ended, ?_⟩
      · rw [rest, dropFinal_of_ne carriage, List.map_cons, String.toList_ofList]
      · rw [List.forall_mem_cons, String.toList_ofList]
        exact ⟨first, plain⟩
      · rwa [String.toList_ofList]
      · rw [written_feed, String.toList_ofList, same, split]
  · have whole := linesBy_of_not_mem feed '\r'
    cases text with
    | nil => exact ⟨[], [], whole, by simp, .nil, rfl⟩
    | cons c rest =>
      refine ⟨[String.ofList (c :: rest)], [.missing], by rw [whole]; simp, by simpa using feed,
        .missing ?_, ?_⟩
      · simp
      · rw [written_missing, String.toList_ofList]
termination_by text.length

/-- The endings of lines can be told from what is written. -/
theorem Ended.unique {lines : List String} {endings other : List Ending} (ended : Ended lines endings)
    (ended' : Ended lines other) (same : written lines endings = written lines other) :
    endings = other := by
  induction ended generalizing other with
  | nil =>
    cases ended'
    rfl
  | missing something =>
    cases ended' with
    | missing something' => rfl
    | feed plain later => simp [written_missing, written_feed] at same
    | carriageFeed later => simp [written_missing, written_carriageFeed] at same
  | feed plain later ih =>
    cases ended' with
    | missing something => simp [written_missing, written_feed] at same
    | feed plain' later' =>
      rw [written_feed, written_feed] at same
      rw [ih later' (List.cons.inj (List.append_cancel_left same)).2]
    | carriageFeed later' => simp [written_feed, written_carriageFeed] at same
  | carriageFeed later ih =>
    cases ended' with
    | missing something => simp [written_missing, written_carriageFeed] at same
    | feed plain' later' => simp [written_feed, written_carriageFeed] at same
    | carriageFeed later' =>
      rw [written_carriageFeed, written_carriageFeed] at same
      rw [ih later' (List.cons.inj (List.append_cancel_left same)).2]

/-- The lines of a text that is encoded are the lines of that text. -/
theorem outputLines_encode (text : List Char) :
    outputLines (encode text) = (linesBy '\n' '\r' text).map String.ofList := by
  rw [outputLines_eq, Utf8.decode_encode]

/-- Lines that hold no line feed are read back as they were written, whatever endings they can have.
And every text is its lines, which hold no line feed, written with one choice of endings. -/
theorem outputLines_written :
    (∀ lines endings, (∀ line ∈ lines, '\n' ∉ line.toList) → Ended lines endings →
      outputLines (encode (written lines endings)) = lines) ∧
    ∀ text, (∀ line ∈ outputLines (encode text), '\n' ∉ line.toList) ∧
      ∃ endings, ∀ other,
        (Ended (outputLines (encode text)) other ∧
          encode (written (outputLines (encode text)) other) = encode text) ↔ other = endings := by
  have same : ∀ lines : List String, (lines.map String.toList).map String.ofList = lines := by
    simp [Function.comp_def]
  refine ⟨fun lines endings plain ended => ?_, fun text => ?_⟩
  · rw [outputLines_encode, linesBy_written plain ended, same]
  · obtain ⟨lines, endings, found, plain, ended, whole⟩ := exists_written text
    rw [outputLines_encode, found, same]
    refine ⟨plain, endings, fun other => ⟨fun ⟨ended', again⟩ => ?_, fun again => ?_⟩⟩
    · have text_eq := congrArg decode again
      rw [Utf8.decode_encode, Utf8.decode_encode] at text_eq
      exact ended'.unique ended (text_eq.trans whole.symm)
    · rw [again, whole]
      exact ⟨ended, rfl⟩

theorem outputLines_written_sample :
    outputLines (encode (written ["a\r", "", "b\rc"] [.carriageFeed, .feed, .missing])) =
      ["a\r", "", "b\rc"] := by
  refine outputLines_written.1 _ _ (by decide) ?_
  exact .carriageFeed (.feed (by decide) (.missing (by decide)))

end TestBench.Text
