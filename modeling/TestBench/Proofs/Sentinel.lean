import TestBench.Proofs.Outcome
import TestBench.Proofs.Text.Lines
import TestBench.Proofs.Text.Utf8

/-!
When a test passes, told from the octets of its last output. The sentinel stands on a line of its
own at the very end; nothing but its own octets is read as the sentinel.

- `isLine_sentinel` and `sentinel_isLine`: which octets are a line that reads as the sentinel,
- `judge_passed` and `judge_failed`: what the output of the last command means,
- `run_sentinel`: the result of a test whose commands are all complete in time.
-/
namespace TestBench
set_option autoImplicit false
open Text (IsLine IsWhole outputLines)

/-! ## The last line -/

/-- The sentinel in octets. -/
def sentinelOctets : List UInt8 :=
  Text.Utf8.encode Properties.sentinel.toList

/-- How the last line may end: not at all, or with a line feed and at most one carriage return
before it. -/
def terminators : List (List UInt8) :=
  [[], [10], [13, 10]]

example : sentinelOctets =
    [65, 108, 108, 32, 116, 101, 115, 116, 115, 32, 112, 97, 115, 115, 101, 100, 33] := by
  decide

theorem decode_sentinel (line : List UInt8) :
    String.ofList (Text.Utf8.decode line) = Properties.sentinel ↔ line = sentinelOctets := by
  have ascii : Text.Utf8.IsAscii Properties.sentinel.toList := by decide +kernel
  rw [sentinelOctets, ← Text.Utf8.decode_eq_ascii ascii]
  constructor
  · intro same
    rw [← same, String.toList_ofList]
  · intro same
    rw [same, String.ofList_toList]

theorem sentinel_isLine {terminator : List UInt8} (h : terminator ∈ terminators) :
    IsLine (sentinelOctets ++ terminator) sentinelOctets := by
  have inner : 10 ∉ sentinelOctets := by decide
  simp only [terminators, List.mem_cons, List.not_mem_nil, or_false] at h
  rcases h with rfl | rfl | rfl
  · rw [List.append_nil]
    exact .unterminated inner (by decide)
  · have kept : Text.dropFinal 13 sentinelOctets = sentinelOctets := by decide
    have line := IsLine.terminated inner
    rw [kept] at line
    exact line
  · have inner : 10 ∉ sentinelOctets ++ [13] := by decide
    have line := IsLine.terminated inner
    rw [Text.dropFinal_concat, List.append_assoc] at line
    exact line

theorem isLine_sentinel {tail : List UInt8} (h : IsLine tail sentinelOctets) :
    ∃ terminator ∈ terminators, tail = sentinelOctets ++ terminator := by
  generalize same : sentinelOctets = line at h
  cases h with
  | @terminated written inner =>
    rcases Text.dropFinal_cases 13 written with kept | dropped
    · exact ⟨[10], by decide, by rw [← kept]⟩
    · refine ⟨[13, 10], by decide, ?_⟩
      have split : written ++ [10] = (Text.dropFinal 13 written ++ [13]) ++ [10] := by
        rw [← dropped]
      rw [split, List.append_assoc]
      rfl
  | unterminated inner something => exact ⟨[], by decide, (List.append_nil _).symm⟩

/-! ## The whole output -/

/-- Output that says that a test has passed, after whole lines. -/
def Passes (whole output : List UInt8) : Prop :=
  IsWhole whole ∧ ∃ terminator ∈ terminators, output = whole ++ sentinelOctets ++ terminator

theorem judge_passed {whole output : List UInt8} (h : Passes whole output) :
    Harness.judge (outputLines output) = (.success, outputLines whole) := by
  obtain ⟨ends, terminator, member, rfl⟩ := h
  rw [List.append_assoc, Text.outputLines_lastLine ends (sentinel_isLine member),
    (decode_sentinel sentinelOctets).mpr rfl, Harness.judge, List.getLast?_concat,
    List.dropLast_concat]
  exact if_pos rfl

theorem judge_failed {output : List UInt8} (something : output ≠ [])
    (h : ∀ whole, ¬Passes whole output) :
    Harness.judge (outputLines output) = (.execFailed, outputLines output) := by
  obtain ⟨whole, tail, line, rfl, ends, isLine⟩ := Text.exists_lastLine something
  have other : String.ofList (Text.Utf8.decode line) ≠ Properties.sentinel := by
    intro same
    rw [(decode_sentinel line).mp same] at isLine
    obtain ⟨terminator, member, rfl⟩ := isLine_sentinel isLine
    exact h whole ⟨ends, terminator, member, (List.append_assoc _ _ _).symm⟩
  rw [Text.outputLines_lastLine ends isLine, Harness.judge, List.getLast?_concat]
  exact if_neg other

theorem judge_success (output : List UInt8) :
    (Harness.judge (outputLines output)).1 = .success ↔ ∃ whole, Passes whole output := by
  constructor
  · intro success
    by_cases empty : output = []
    · rw [empty] at success
      cases success
    · refine Classical.not_forall_not.mp fun failed => ?_
      rw [judge_failed empty failed] at success
      cases success
  · rintro ⟨whole, passes⟩
    rw [judge_passed passes]

theorem passes_iff (output : List UInt8) :
    (∃ whole, Passes whole output) ↔ ∃ terminator ∈ terminators,
      output = sentinelOctets ++ terminator ∨
        ∃ before, output = before ++ [10] ++ sentinelOctets ++ terminator := by
  constructor
  · rintro ⟨whole, rfl | ⟨before, rfl⟩, terminator, member, same⟩
    · exact ⟨terminator, member, .inl same⟩
    · exact ⟨terminator, member, .inr ⟨before, same⟩⟩
  · rintro ⟨terminator, member, same | ⟨before, same⟩⟩
    · exact ⟨[], .inl rfl, terminator, member, same⟩
    · exact ⟨before ++ [10], .inr ⟨before, rfl⟩, terminator, member, same⟩

/-! ## The result -/

/-- Without fail-fast, commands that are complete are judged by the last of them. -/
theorem verdict_complete (onFault : Fault → Harness.Outcome) {settings : Settings}
    (patient : settings.failFast = false) {readings : List Reading}
    (complete : ∀ reading ∈ readings, ∃ output status, reading = .complete output status) :
    verdict onFault settings readings =
      Harness.judge ((readings.getLast?.map Reading.lines).getD []) := by
  have unsettled : settled onFault settings readings = none := by
    rw [settled, List.findSome?_eq_none_iff]
    intro found member
    obtain ⟨output, status, same⟩ := complete found.1 (List.fst_mem_of_mem_zipIdx member)
    simp [same, Reading.settles, patient]
  rw [verdict, unsettled, judge_eq_told]

/-- Without fail-fast and with all commands complete in time, a test passes exactly if the sentinel
is the last line of the last output, which may be terminated by a line feed or by a carriage return
and a line feed. What comes before is recorded. Any other output that is not empty is a failure and
is recorded as it is. -/
theorem run_sentinel (harness : Harness) (test : TestRun) (runner : Runner) (host : Host)
    (opened : harness.closed = false) (runnable : test.isRunnable = true)
    (patient : harness.settings.failFast = false)
    (complete : ∀ reading ∈ harness.readings test runner host,
      ∃ output status, reading = .complete output status)
    (octets : List UInt8) (status : Int)
    (last : (harness.readings test runner host).getLast? = some (.complete octets status)) :
    ∃ result output after,
      harness.run test runner host =
        (.ok { test with result := some result, output := output }, after) ∧
      (result = .success ↔ ∃ terminator ∈ terminators,
        octets = sentinelOctets ++ terminator ∨
          ∃ before, octets = before ++ [10] ++ sentinelOctets ++ terminator) ∧
      (∀ terminator ∈ terminators, octets = sentinelOctets ++ terminator → output = []) ∧
      (∀ before, ∀ terminator ∈ terminators,
        octets = before ++ [10] ++ sentinelOctets ++ terminator →
          output = outputLines (before ++ [10])) ∧
      (octets ≠ [] → result ≠ .success → result = .execFailed ∧ output = outputLines octets) := by
  obtain ⟨-, after, ran, -, -⟩ := Harness.run_eq runner host opened runnable
  have outcome : verdict (Harness.outcomeOfFault harness.settings) harness.settings
      (harness.readings test runner host) = Harness.judge (outputLines octets) := by
    rw [verdict_complete _ patient complete, last]
    rfl
  rw [outcome] at ran
  refine ⟨_, _, after, ran, ?_, ?_, ?_, ?_⟩
  · rw [judge_success, passes_iff]
  · intro terminator member same
    rw [judge_passed ⟨.inl rfl, terminator, member, same⟩]
    rfl
  · intro before terminator member same
    rw [judge_passed ⟨.inr ⟨before, rfl⟩, terminator, member, same⟩]
  · intro something failed
    have never : ∀ whole, ¬Passes whole octets := fun whole passes =>
      failed ((judge_success octets).mpr ⟨whole, passes⟩)
    rw [judge_failed something never]
    exact ⟨rfl, rfl⟩

theorem run_sentinel_sample :
    ∃ result output after,
      Harness.sampleScripted.run Harness.sampleInstalled (.of [] [] .here) Harness.sampleStage =
        (.ok { Harness.sampleInstalled with result := some result, output := output }, after) ∧
      result = .success ∧ output = outputLines (Text.Utf8.encode "ok\n".toList) := by
  have found : Harness.sampleScripted.readings Harness.sampleInstalled (.of [] [] .here)
      Harness.sampleStage = [.complete (Text.Utf8.encode "no\n".toList) 1,
        .complete (Text.Utf8.encode "ok\nAll tests passed!\n".toList) 0] := by
    decide +kernel
  have split : Text.Utf8.encode "ok\nAll tests passed!\n".toList =
      Text.Utf8.encode "ok".toList ++ [10] ++ sentinelOctets ++ [10] := by
    decide +kernel
  obtain ⟨result, output, after, ran, success, -, recorded, -⟩ :=
    run_sentinel Harness.sampleScripted Harness.sampleInstalled (.of [] [] .here)
      Harness.sampleStage rfl rfl rfl (by simp [found]) _ 0 (by rw [found]; rfl)
  refine ⟨result, output, after, ran, ?_, ?_⟩
  · exact success.mpr ⟨[10], by decide, .inr ⟨_, split⟩⟩
  · exact recorded _ [10] (by decide) split

end TestBench
