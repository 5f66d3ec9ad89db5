import Mathlib.Data.List.Pairwise
import InstancedZones.Instance

/-!
# When an instance ends, and when it warns

The clock shows whole seconds in a signed 64-bit number, and the nanoseconds beyond them.
A point in time is one number, and the clock's way of showing it is a matter of quotient
and remainder: every reading is the reading of a point in time,
`Timestamp.exists_of_reading`. So adding a length of time leaves the clock just in case it
passes the last second, and subtracting borrows a second just in case the nanoseconds do
not suffice. However far apart two points are, the time between them is a length of time.

An instance ends so many seconds after it was made as its blueprint says, at the same
nanosecond; if that passes the last second of the clock, it does not end at all. It is
expired from its end on, and until then the time that remains leads from now to the end,
`Instance.lives_as_planned`.

The warnings of an instance are the ones of its blueprint, the earliest first. Equal ones
stand side by side once they are in order, so dropping what repeats the one before it
drops all repeats, `Instance.warns_in_order`.
-/

namespace InstancedZones

namespace Duration

/-- The whole seconds of a length of time fit 64 bits. -/
theorem secs_le (d : Duration) : d.secs ≤ 18446744073709551615 := by
  have hnanos := d.nanos_lt
  unfold secs
  omega

end Duration

namespace Timestamp

variable {t u : Timestamp} {d : Duration}

/-! ## Readings of the clock -/

/-- A point in time is what the clock shows. -/
theorem nanos_eq (t : Timestamp) : t.nanos = t.secs * 1000000000 + t.subsecNanos := by
  unfold secs subsecNanos
  omega

theorem subsecNanos_lt (t : Timestamp) : t.subsecNanos < 1000000000 := by
  unfold subsecNanos
  omega

/-- What the clock shows is told by quotient and remainder. -/
theorem reading_of_nanos_eq {secs : Int} {nanos : Nat} (hnanos : nanos < 1000000000)
    (h : t.nanos = secs * 1000000000 + nanos) : t.secs = secs ∧ t.subsecNanos = nanos := by
  unfold Timestamp.secs subsecNanos
  omega

/-- **Every reading is one of a point in time.** -/
theorem exists_of_reading (secs : Int64) {nanos : Nat} (hnanos : nanos < 1000000000) :
    ∃ t : Timestamp, t.secs = secs.toInt ∧ t.subsecNanos = nanos := by
  have hlower := secs.le_toInt
  have hupper := secs.toInt_lt
  refine ⟨⟨secs.toInt * 1000000000 + nanos, by omega, by omega⟩, ?_⟩
  exact reading_of_nanos_eq hnanos rfl

/-! ## Later by a length of time -/

theorem add?_eq_some_iff : t.add? d = some u ↔ u.nanos = t.nanos + d.nanos := by
  obtain ⟨nanos, hlower, hupper⟩ := u
  unfold add? ofNanos?
  simp only [Option.dite_none_right_eq_some, Option.some.injEq, Timestamp.mk.injEq]
  constructor
  · rintro ⟨-, rfl⟩
    rfl
  · rintro rfl
    exact ⟨⟨hlower, hupper⟩, rfl⟩

/-- **There is no such point** if it would lie past the last second of the clock. -/
theorem add?_eq_none_iff :
    t.add? d = none ↔ 9223372036854775808 * 1000000000 ≤ t.nanos + d.nanos := by
  have hlower := t.lower
  unfold add? ofNanos?
  rw [dite_eq_right_iff]
  simp only [reduceCtorEq, imp_false]
  omega

/-- **Whole seconds leave the clock** if the last second is passed. -/
theorem add?_ofSecs_eq_none_iff {n : UInt64} :
    t.add? (.ofSecs n) = none ↔ 9223372036854775807 < t.secs + n.toNat := by
  have hnanos := t.nanos_eq
  have hsub := t.subsecNanos_lt
  have hadded : (Duration.ofSecs n).nanos = n.toNat * 1000000000 := rfl
  rw [add?_eq_none_iff, hadded]
  omega

/-- **Whole seconds leave the nanoseconds alone.** -/
theorem reading_of_add?_ofSecs {n : UInt64} (h : t.add? (.ofSecs n) = some u) :
    u.secs = t.secs + n.toNat ∧ u.subsecNanos = t.subsecNanos := by
  have hnanos := t.nanos_eq
  have hsum : u.nanos = t.nanos + (n.toNat * 1000000000 : Nat) := add?_eq_some_iff.mp h
  refine reading_of_nanos_eq t.subsecNanos_lt ?_
  omega

/-! ## The time between two points -/

theorem nanos_since (h : t ≤ u) : ((u.since t).nanos : Int) = u.nanos - t.nanos :=
  Int.toNat_of_nonneg (Int.sub_nonneg.mpr h)

/-- No time passes to a point that is not later. -/
theorem since_eq_zero_iff : u.since t = .zero ↔ u ≤ t := by
  have hle : u ≤ t ↔ u.nanos ≤ t.nanos := Iff.rfl
  rw [since, Duration.zero, Duration.mk.injEq, hle]
  omega

/-- **The time up to a later point leads to it.** -/
theorem add?_since (h : t ≤ u) : t.add? (u.since t) = some u := by
  rw [add?_eq_some_iff, nanos_since h]
  omega

/-- **The time up to a later point, as the clock shows it**: seconds from seconds and
nanoseconds from nanoseconds, with a second borrowed where these do not suffice. -/
theorem reading_since (h : t ≤ u) :
    ((u.since t).secs : Int)
        = (if t.subsecNanos ≤ u.subsecNanos then u.secs - t.secs else u.secs - t.secs - 1) ∧
      (u.since t).subsecNanos
        = (if t.subsecNanos ≤ u.subsecNanos then u.subsecNanos - t.subsecNanos
          else u.subsecNanos + 1000000000 - t.subsecNanos) := by
  have hbetween := nanos_since h
  rw [u.nanos_eq, t.nanos_eq] at hbetween
  have hsubt := t.subsecNanos_lt
  have hsubu := u.subsecNanos_lt
  unfold Duration.secs Duration.subsecNanos
  split <;> omega

end Timestamp

/-! ## The end -/

namespace Blueprint

variable {b : Blueprint} {start ending : Timestamp}

/-- **A blueprint gives an end** if it has a duration, and the clock can show the end. -/
theorem endsAt_eq_some_iff :
    b.endsAt start = some ending
      ↔ b.durationSecs ≠ 0 ∧ start.add? (.ofSecs b.durationSecs) = some ending := by
  unfold endsAt
  split
  · next hzero => simp [hzero]
  · next hzero => simp [hzero]

/-- The end is so many seconds after the start. -/
theorem endsAt_eq_some_iff_nanos :
    b.endsAt start = some ending
      ↔ b.durationSecs ≠ 0 ∧ ending.nanos = start.nanos + b.durationSecs.toNat * 1000000000 := by
  rw [endsAt_eq_some_iff, Timestamp.add?_eq_some_iff, Duration.ofSecs, Int.natCast_mul]
  rfl

/-- **A blueprint gives no end** if it has no duration, or the end would lie past the last
second of the clock. -/
theorem endsAt_eq_none_iff :
    b.endsAt start = none
      ↔ b.durationSecs = 0 ∨ 9223372036854775807 < start.secs + b.durationSecs.toNat := by
  rw [← Timestamp.add?_ofSecs_eq_none_iff, endsAt]
  split
  · next hzero => simp [hzero]
  · next hzero => simp [hzero]

end Blueprint

namespace Instance

variable {i : Instance} {now later ending : Timestamp}

/-- **An instance is expired** if it ends and the end has come. -/
theorem isExpired_iff :
    i.isExpired now = true ↔ ∃ ending, i.endsAt = some ending ∧ ending ≤ now := by
  unfold isExpired
  cases i.endsAt <;> simp

/-- **No time remains** just in case the instance is expired. -/
theorem remaining_eq_zero_iff : i.remaining now = some .zero ↔ i.isExpired now = true := by
  rw [isExpired_iff, remaining, Option.map_eq_some_iff]
  simp only [Timestamp.since_eq_zero_iff]

/-- An instance that has not expired ends later. -/
theorem lt_of_not_expired (hends : i.endsAt = some ending) (h : i.isExpired now = false) :
    now ≤ ending := by
  rw [isExpired, hends] at h
  exact Int.le_of_lt (Int.not_le.mp (of_decide_eq_false h))

/-- **What is expired stays expired.** -/
theorem isExpired_of_le (hle : now ≤ later) (h : i.isExpired now = true) :
    i.isExpired later = true := by
  obtain ⟨ending, hends, hcome⟩ := isExpired_iff.mp h
  exact isExpired_iff.mpr ⟨ending, hends, Int.le_trans hcome hle⟩

/-- **An instance lives as its blueprint plans**, whenever it is made and whatever the clock shows.
Every blueprint makes one. It has no end just in case the blueprint gives no duration, or the
duration leads past the last second of the clock; otherwise it ends exactly so many seconds after
it was made, at the same nanosecond. It is expired from its end on, that is, just in case no time
remains; and before that the time that remains leads from now exactly to the end. -/
theorem lives_as_planned (id : InstanceId) (b : Blueprint) (start : Timestamp) :
    let i := ofBlueprint id b start
    (∀ (secs : Int64) (nanos : Nat), nanos < 1000000000 →
      ∃ t : Timestamp, t.secs = secs.toInt ∧ t.subsecNanos = nanos) ∧
    (i.endsAt = none
      ↔ b.durationSecs = 0 ∨ 9223372036854775807 < start.secs + b.durationSecs.toNat) ∧
    (∀ ending, i.endsAt = some ending →
      ending.secs = start.secs + b.durationSecs.toNat ∧
        ending.subsecNanos = start.subsecNanos) ∧
    ∀ now : Timestamp,
      (i.isExpired now = true ↔ ∃ ending, i.endsAt = some ending ∧ ending ≤ now) ∧
      (i.isExpired now = true ↔ i.remaining now = some .zero) ∧
      (∀ ending, i.endsAt = some ending → i.isExpired now = false →
        ∃ left, i.remaining now = some left ∧ now.add? left = some ending ∧
          left.secs ≤ 18446744073709551615 ∧
          (left.secs : Int) = (if now.subsecNanos ≤ ending.subsecNanos then
            ending.secs - now.secs else ending.secs - now.secs - 1) ∧
          left.subsecNanos = (if now.subsecNanos ≤ ending.subsecNanos then
            ending.subsecNanos - now.subsecNanos
            else ending.subsecNanos + 1000000000 - now.subsecNanos)) ∧
      ∀ later, now ≤ later → i.isExpired now = true → i.isExpired later = true := by
  intro i
  refine ⟨fun secs _ => Timestamp.exists_of_reading secs, Blueprint.endsAt_eq_none_iff,
    fun ending hends => ?_, fun now => ⟨isExpired_iff, remaining_eq_zero_iff.symm,
      fun ending hends hlives => ?_, fun later hle => isExpired_of_le hle⟩⟩
  · exact Timestamp.reading_of_add?_ofSecs (Blueprint.endsAt_eq_some_iff.mp hends).2
  · have hle := lt_of_not_expired hends hlives
    refine ⟨ending.since now, ?_, Timestamp.add?_since hle, Duration.secs_le _,
      Timestamp.reading_since hle⟩
    rw [remaining, hends]
    rfl

/-- The longest duration leads from the first second of the clock to the last. -/
example : ({ Blueprint.plain with durationSecs := 18446744073709551615 }).endsAt
    ⟨-9223372036854775808 * 1000000000, by decide, by decide⟩
      = some ⟨9223372036854775807 * 1000000000, by decide, by decide⟩ := by
  decide +kernel

end Instance

/-! ## Warnings -/

section Repeats

variable {α : Type} [DecidableEq α]

/-- Nothing is lost when repeats are dropped. -/
theorem mem_dropRepeats {a : α} (l : List α) : a ∈ dropRepeats l ↔ a ∈ l := by
  induction l using dropRepeats.induct with
  | case1 => rfl
  | case2 b => rfl
  | case3 c rest ih =>
    rw [dropRepeats, if_pos rfl, ih, List.mem_cons (l := c :: rest), List.mem_cons]
    simp
  | case4 b c rest hne ih =>
    rw [dropRepeats, if_neg hne, List.mem_cons, ih, List.mem_cons (l := c :: rest)]

end Repeats

/-- **Dropping what repeats the one before it drops all repeats** of numbers that descend: where
one does not repeat the one before it, it is less, and so are all that come after. -/
theorem pairwise_dropRepeats {l : List UInt64} (h : l.Pairwise (· ≥ ·)) :
    (dropRepeats l).Pairwise (· > ·) := by
  induction l using dropRepeats.induct with
  | case1 => exact .nil
  | case2 a => exact List.pairwise_singleton _ a
  | case3 b rest ih =>
    rw [dropRepeats, if_pos rfl]
    exact ih h.of_cons
  | case4 a b rest hne ih =>
    rw [dropRepeats, if_neg hne, List.pairwise_cons]
    refine ⟨fun c hc => ?_, ih h.of_cons⟩
    have hab : b < a := UInt64.lt_of_le_of_ne (List.rel_of_pairwise_cons h (by simp)) (Ne.symm hne)
    rcases List.mem_cons.mp ((mem_dropRepeats _).mp hc) with rfl | hrest
    · exact hab
    · exact UInt64.lt_of_le_of_lt (List.rel_of_pairwise_cons h.of_cons hrest) hab

/-- Sorting puts the most first. -/
theorem pairwise_mergeSort_ge (l : List UInt64) :
    (l.mergeSort fun a b => decide (b ≤ a)).Pairwise (· ≥ ·) := by
  have hsorted := @List.pairwise_mergeSort UInt64 (fun a b => decide (b ≤ a))
    (fun a b c hab hbc => decide_eq_true
      (UInt64.le_trans (of_decide_eq_true hbc) (of_decide_eq_true hab)))
    (fun a b => by simpa using UInt64.le_total b a) l
  exact hsorted.imp of_decide_eq_true

/-- **An instance warns as its blueprint says**, whatever the order the warnings are written in
and however often: the most seconds before the end first, and each of them once. -/
theorem Instance.warns_in_order (id : InstanceId) (b : Blueprint) (now : Timestamp) :
    let i := ofBlueprint id b now
    i.warnAt.Pairwise (· > ·) ∧ (∀ secs, secs ∈ i.warnAt ↔ secs ∈ b.warnAt) ∧
      ∀ secs, i.warnAt.count secs = if secs ∈ b.warnAt then 1 else 0 := by
  intro i
  have hdescending : i.warnAt.Pairwise (· > ·) :=
    pairwise_dropRepeats (pairwise_mergeSort_ge b.warnAt)
  have hmem : ∀ secs, secs ∈ i.warnAt ↔ secs ∈ b.warnAt := fun secs =>
    (mem_dropRepeats _).trans List.mem_mergeSort
  have hnodup : i.warnAt.Nodup := hdescending.imp fun hgt => (UInt64.ne_of_lt hgt).symm
  refine ⟨hdescending, hmem, fun secs => ?_⟩
  rw [hnodup.count]
  simp only [hmem]

end InstancedZones
