import TestBench.Command
import TestBench.Number.Binary

/-!
Reading the output of a command under a deadline.
-/
namespace TestBench
set_option autoImplicit false

namespace Command

/-- Deadlines are measured in binary floating point, in seconds. From this number of milliseconds on
they cannot be. -/
def timeoutBound : Nat := 1000 * Number.overflowBound

/-- The fault of a deadline that cannot be measured. -/
def unmeasurable : Fault :=
  .other "OverflowError" (.plain "int too large to convert to float")

/-- Waits for all of the output, but at most for so many milliseconds. No time at all is never
enough, and a time that cannot be measured is not waited for. -/
def read (command : Command) (timeout : Nat) (host : Host) : Except Fault (List String) × Host :=
  let expired := (.error .deadline, host.waitUntil (host.now + timeout))
  if timeout = 0 then expired
  else if timeoutBound ≤ timeout then (.error unmeasurable, host)
  else match command.outcome host with
    | (result, some moment) =>
      if moment ≤ host.now + timeout then (result, host.waitUntil moment) else expired
    | (_, none) => expired

/-- Reading takes no longer than the deadline allows. -/
theorem read_now_le (command : Command) (timeout : Nat) (host : Host) :
    (command.read timeout host).2.now ≤ host.now + timeout := by
  unfold read
  split
  · simp only [Host.waitUntil]; omega
  · split
    · exact Nat.le_add_right _ _
    · split
      · split
        · simp only [Host.waitUntil]; omega
        · simp only [Host.waitUntil]; omega
      · simp only [Host.waitUntil]; omega

end Command
end TestBench
