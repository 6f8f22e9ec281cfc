import TxnLog.Proofs.Settings
import TxnLog.Tailer.Configured
import TxnLog.Tailer.Waiter

/-!
# Intervals

The intervals of settings that pass the check are integers that are not below zero
(`exists_intervals_of_tailing`), and so many milliseconds are a finite number of seconds, or none
that a double can hold (`exists_finite_of_seconds`). So a waiter has one reason only not to sleep
for as long as a tailer wants it to, which is that there are too many nanoseconds (`wait_finite`).
-/

namespace TxnLog

/-- A ratio is rounded to a finite number, or is too large for that. -/
theorem Binary64.ofRatio_eq (negative : Bool) (num den : Nat) :
    ofRatio negative num den = .infinite negative
      ∨ ∃ m q, ofRatio negative num den = .finite negative m q := by
  unfold ofRatio
  dsimp only
  split
  · exact .inr ⟨_, _, rfl⟩
  -- Rounding up may lead to the next exponent, which is looked at in either case.
  · split
    all_goals
      dsimp only
      split
      · exact .inl rfl
      · exact .inr ⟨_, _, rfl⟩

namespace Settings

/-- An integer is an interval if it is not below zero. -/
theorem interval_int (field : String) (n : Int) :
    interval field (.int n) = if (Number.whole n).isNegative
      then .error (.negativeInterval field (.int n)) else .ok (.whole n) := rfl

/-- An interval that is given as an integer is not below zero. -/
theorem exists_nat_of_interval {field : String} {n : Int} {given : Number}
    (h : interval field (.int n) = .ok given) : ∃ ms : Nat, given = .whole ms := by
  rw [interval_int] at h
  split at h
  · contradiction
  · next hsign =>
    obtain rfl := Except.ok.inj h
    have hle : 0 ≤ n := by simpa [Number.isNegative] using hsign
    exact ⟨n.toNat, by rw [Int.toNat_of_nonneg hle]⟩

/-- The intervals of settings that can be used are whole numbers of milliseconds. -/
theorem exists_intervals_of_tailing {s : Settings} {t : Tailing} (h : s.tailing = .ok t) :
    ∃ ms verboseMs : Nat, t.pollMs = .whole ms ∧ t.verbosePollMs = .whole verboseMs := by
  unfold tailing candidate at h
  simp only [bind_eq_ok_iff] at h
  obtain ⟨c, ⟨pollMs, -, verbosePollMs, -, checksum, -, frameLimit, -, hc⟩, hcheck⟩ := h
  obtain rfl := Except.ok.inj hc
  unfold Candidate.check at hcheck
  simp only [bind_eq_ok_iff] at hcheck
  obtain ⟨poll, hpoll, verbosePoll, hverbose, _, -, _, -, ht⟩ := hcheck
  obtain rfl := Except.ok.inj ht
  obtain ⟨ms, hms⟩ := exists_nat_of_interval hpoll
  obtain ⟨verboseMs, hverboseMs⟩ := exists_nat_of_interval hverbose
  exact ⟨ms, verboseMs, hms, hverboseMs⟩

/-- A whole number of milliseconds that has a number of seconds has a finite one. -/
theorem exists_finite_of_seconds {ms : Nat} {x : Binary64} (h : seconds (.whole ms) = .ok x) :
    ∃ m q, x = .finite false m q := by
  have hratio : Binary64.ofIntRatio ms 1000 = Binary64.ofRatio false ms 1000 := by
    rw [Binary64.ofIntRatio, Int.natAbs_natCast, decide_eq_false (by omega)]
  unfold seconds at h
  dsimp only at h
  rw [hratio] at h
  obtain heq | ⟨m, q, heq⟩ := Binary64.ofRatio_eq false ms 1000
  · rw [heq] at h
    contradiction
  · rw [heq] at h
    exact ⟨m, q, (Except.ok.inj h).symm⟩

end Settings

namespace Tailer

/-- A waiter sleeps for any finite number of seconds that is not below zero, unless it is cancelled
or the nanoseconds do not fit. -/
theorem Waiter.wait_finite (w : Waiter) (m : Nat) (q : Int) :
    w.wait (.number (.real (.finite false m q)))
      = if w.cancelled then .ok true
        else if isTooLong (.real (.finite false m q)) then .error .tooLong
        else .ok false := rfl

end Tailer

end TxnLog
