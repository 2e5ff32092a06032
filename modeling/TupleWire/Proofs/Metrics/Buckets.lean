/-
  What the buckets of a latency histogram say of the durations recorded in it.

  A duration is counted in the first bucket whose bound it does not exceed.  It is
  therefore in one of the first `n` buckets exactly when one of the first `n`
  bounds is as large as it is (`bucketOf_lt_iff`), whatever the order of the
  bounds.  So buckets are best read from the left, all of them up to one together:
  `upTo`.  `upTo_record` says what one duration adds to them and `upTo_recordAll`
  what a row of durations does.  That the bounds ascend is needed last, where
  `upTo_succ_of_ascending` puts one bound in the place of all up to it.
-/
import Mathlib.Algebra.Order.BigOperators.Group.List
import Mathlib.Algebra.Order.Group.Nat
import TupleWire.Proofs.Metrics.Tally

set_option autoImplicit false

namespace TupleWire

/-! ## Microseconds -/

/-- What is recorded of a duration: its whole microseconds, or the largest 64-bit number if they are
more than that. -/
def Duration.recordedMicros (d : Duration) : Nat := min d.micros (2 ^ 64 - 1)

theorem Duration.cappedMicros_le_iff (d : Duration) (bound : UInt64) :
    d.cappedMicros ≤ bound ↔ d.recordedMicros ≤ bound.toNat := by
  have hfits : d.recordedMicros < UInt64.size :=
    Nat.lt_succ_of_le (Nat.min_le_right _ _)
  have hword : d.cappedMicros.toNat = d.recordedMicros := UInt64.toNat_ofNat_of_lt' hfits
  rw [UInt64.le_iff_toNat_le, hword]

namespace Histogram

variable {bounds : List UInt64} {h : Histogram}

/-! ## The bucket of a duration -/

/-- A number is in one of the first buckets if one of their bounds is as large as it is. -/
theorem bucketOf_lt_iff {n : Nat} (hn : n ≤ bounds.length) (micros : UInt64) :
    bucketOf bounds micros < n ↔ ∃ bound ∈ bounds.take n, micros ≤ bound := by
  have hfirst : bucketOf (bounds.take n) micros = min n (bucketOf bounds micros) :=
    List.findIdx_take
  have hfound : bucketOf (bounds.take n) micros < (bounds.take n).length ↔
      ∃ bound ∈ bounds.take n, micros ≤ bound := by
    rw [bucketOf, List.findIdx_lt_length]
    simp only [decide_eq_true_eq]
  rw [← hfound, hfirst, List.length_take]
  omega

/-- Of ascending bounds, the last of the first few decides. -/
theorem bucketOf_lt_succ_iff (hascending : bounds.Pairwise (· ≤ ·)) {i : Nat} {bound : UInt64}
    (hbound : bounds[i]? = some bound) (micros : UInt64) :
    bucketOf bounds micros < i + 1 ↔ micros ≤ bound := by
  obtain ⟨hi, -⟩ := List.getElem?_eq_some_iff.1 hbound
  have htake : bounds.take (i + 1) = bounds.take i ++ [bound] := by
    rw [List.take_add_one, hbound]
    rfl
  have hbefore : ∀ earlier ∈ bounds.take i, earlier ≤ bound := by
    intro earlier hearlier
    have hpairs := hascending.take (i := i + 1)
    rw [htake, List.pairwise_append] at hpairs
    exact hpairs.2.2 earlier hearlier bound (List.mem_singleton_self bound)
  rw [bucketOf_lt_iff hi, htake]
  constructor
  · rintro ⟨earlier, hmem, hle⟩
    obtain hmem | hmem := List.mem_append.1 hmem
    · exact UInt64.le_trans hle (hbefore earlier hmem)
    · rwa [List.mem_singleton.1 hmem] at hle
  · intro hle
    exact ⟨bound, List.mem_append_right _ (List.mem_singleton_self bound), hle⟩

/-! ## The first buckets together -/

/-- The samples in the first `n` buckets together. -/
def upTo (h : Histogram) (n : Nat) : Nat := ((h.buckets.take n).map UInt64.toNat).sum

theorem upTo_mono (h : Histogram) : Monotone h.upTo := by
  intro m n hmn
  rw [upTo, upTo, List.map_take, List.map_take]
  exact List.monotone_sum_take _ hmn

theorem upTo_of_length_le {n : Nat} (hn : h.buckets.length ≤ n) : h.upTo n = h.total := by
  rw [upTo, List.take_of_length_le hn, total]

theorem upTo_le_total (h : Histogram) (n : Nat) : h.upTo n ≤ h.total := by
  rw [← upTo_of_length_le (Nat.le_max_right n h.buckets.length)]
  exact h.upTo_mono (Nat.le_max_left _ _)

theorem upTo_succ {n : Nat} {count : UInt64} (hcount : h.buckets[n]? = some count) :
    h.upTo (n + 1) = h.upTo n + count.toNat := by
  rw [upTo, List.take_add_one, hcount, List.map_append, List.sum_append, upTo]
  rfl

/-- A duration is counted among the first buckets if its own is one of them. -/
theorem upTo_record (hroom : h.total + 1 < UInt64.size) (d : Duration) (n : Nat) :
    (h.record d).upTo n = h.upTo n + if bucketOf h.bounds d.cappedMicros < n then 1 else 0 := by
  have hmodify : (h.record d).upTo n =
      (((h.buckets.take n).modify (bucketOf h.bounds d.cappedMicros) (· + 1)).map
        UInt64.toNat).sum := by
    rw [upTo, record, List.take_modify]
  have hlast := h.bucketOf_lt d.cappedMicros
  rw [hmodify]
  split
  · rename_i hin
    have hlt : bucketOf h.bounds d.cappedMicros < (h.buckets.take n).length := by
      rw [List.length_take]
      exact Nat.lt_min.2 ⟨hin, hlast⟩
    have hfew : h.upTo n + 1 < UInt64.size :=
      Nat.lt_of_le_of_lt (Nat.succ_le_succ (h.upTo_le_total n)) hroom
    exact sum_modify_succ hlt hfew
  · rename_i hout
    have hpast : (h.buckets.take n).length ≤ bucketOf h.bounds d.cappedMicros := by
      rw [List.length_take]
      exact Nat.le_trans (Nat.min_le_left _ _) (Nat.not_lt.1 hout)
    rw [List.modify_eq_self hpast, upTo, Nat.add_zero]

/-! ## A row of durations

No bucket runs over while the samples in all of them together can be counted, so
room for the whole row is what the inductions carry.  The sum may run over: it is
a sum of words from the start. -/

/-- Counts a row of durations. -/
def recordAll (h : Histogram) (ds : List Duration) : Histogram := ds.foldl record h

theorem recordAll_cons (h : Histogram) (d : Duration) (ds : List Duration) :
    h.recordAll (d :: ds) = (h.record d).recordAll ds := rfl

theorem bounds_recordAll (h : Histogram) (ds : List Duration) :
    (h.recordAll ds).bounds = h.bounds := by
  induction ds generalizing h with
  | nil => rfl
  | cons d ds ih => exact ih (h.record d)

theorem upTo_recordAll {ds : List Duration} (hroom : h.total + ds.length < UInt64.size) (n : Nat) :
    (h.recordAll ds).upTo n =
      h.upTo n + ds.countP fun d => bucketOf h.bounds d.cappedMicros < n := by
  induction ds generalizing h with
  | nil => rfl
  | cons d ds ih =>
      rw [List.length_cons] at hroom
      have hone : h.total + 1 < UInt64.size := by omega
      have hmore : (h.record d).total + ds.length < UInt64.size := by
        rw [total_record hone]
        omega
      have hbounds : (h.record d).bounds = h.bounds := rfl
      rw [recordAll_cons, ih hmore, hbounds, upTo_record hone, List.countP_cons]
      simp only [decide_eq_true_eq]
      omega

theorem total_recordAll {ds : List Duration} (hroom : h.total + ds.length < UInt64.size) :
    (h.recordAll ds).total = h.total + ds.length := by
  have hafter : (h.recordAll ds).buckets.length ≤ h.bounds.length + 1 := by
    rw [length_buckets, bounds_recordAll]
  have hevery : (ds.countP fun d => bucketOf h.bounds d.cappedMicros < h.bounds.length + 1) =
      ds.length := by
    refine List.countP_eq_length.2 fun d _ => decide_eq_true ?_
    exact h.length_buckets ▸ h.bucketOf_lt d.cappedMicros
  rw [← upTo_of_length_le hafter, upTo_recordAll hroom, hevery,
    upTo_of_length_le (Nat.le_of_eq h.length_buckets)]

theorem samples_recordAll (h : Histogram) (ds : List Duration) :
    (h.recordAll ds).samples = h.samples + UInt64.ofNat ds.length := by
  induction ds generalizing h with
  | nil => exact (UInt64.add_zero _).symm
  | cons d ds ih =>
      have hsamples : (h.record d).samples = h.samples + UInt64.ofNat 1 := rfl
      rw [recordAll_cons, ih, hsamples, List.length_cons, Nat.add_comm ds.length,
        UInt64.ofNat_add, UInt64.add_assoc]

theorem sum_recordAll (h : Histogram) (ds : List Duration) :
    (h.recordAll ds).sum = h.sum + UInt64.ofNat (ds.map Duration.recordedMicros).sum := by
  induction ds generalizing h with
  | nil => exact (UInt64.add_zero _).symm
  | cons d ds ih =>
      have hsum : (h.record d).sum = h.sum + UInt64.ofNat d.recordedMicros := rfl
      rw [recordAll_cons, ih, hsum, List.map_cons, List.sum_cons, UInt64.ofNat_add,
        UInt64.add_assoc]

/-! ## All durations of a histogram -/

/-- The histogram of a row of durations. -/
def ofDurations (bounds : List UInt64) (ds : List Duration) : Histogram :=
  (empty bounds).recordAll ds

section FewDurations

variable {ds : List Duration} (hfew : ds.length < UInt64.size)

include hfew

theorem room_of_few : (empty bounds).total + ds.length < UInt64.size := by
  rwa [total_empty, Nat.zero_add]

theorem upTo_ofDurations (n : Nat) :
    (ofDurations bounds ds).upTo n = ds.countP fun d => bucketOf bounds d.cappedMicros < n := by
  have hnone : (empty bounds).upTo n = 0 :=
    Nat.le_zero.1 (total_empty bounds ▸ upTo_le_total _ _)
  rw [ofDurations, upTo_recordAll (room_of_few hfew), hnone, Nat.zero_add]
  rfl

theorem total_ofDurations : (ofDurations bounds ds).total = ds.length := by
  rw [ofDurations, total_recordAll (room_of_few hfew), total_empty, Nat.zero_add]

theorem samples_ofDurations : (ofDurations bounds ds).samples.toNat = ds.length := by
  have hnone : (empty bounds).samples = 0 := rfl
  rw [ofDurations, samples_recordAll, hnone, UInt64.zero_add]
  exact UInt64.toNat_ofNat_of_lt' hfew

/-- The buckets up to a bound, among ascending ones, hold the durations that do not exceed it. -/
theorem upTo_succ_of_ascending (hascending : bounds.Pairwise (· ≤ ·)) {i : Nat} {bound : UInt64}
    (hbound : bounds[i]? = some bound) :
    (ofDurations bounds ds).upTo (i + 1) =
      ds.countP fun d => d.recordedMicros ≤ bound.toNat := by
  rw [upTo_ofDurations hfew]
  refine List.countP_congr fun d _ => ?_
  rw [decide_eq_true_iff, decide_eq_true_iff, bucketOf_lt_succ_iff hascending hbound,
    Duration.cappedMicros_le_iff]

/-- The bucket of a bound that came before holds nothing: what does not exceed it has been counted
at its first appearance. -/
theorem bucket_of_repeated (hascending : bounds.Pairwise (· ≤ ·)) {i : Nat} {bound : UInt64}
    (hbound : bounds[i]? = some bound) (hbefore : bounds.idxOf bound < i) :
    (ofDurations bounds ds).buckets[i]? = some 0 := by
  have hfirst : bounds[bounds.idxOf bound]? = some bound :=
    List.getElem?_idxOf (List.mem_of_getElem? hbound)
  have hsame : (ofDurations bounds ds).upTo (bounds.idxOf bound + 1) =
      (ofDurations bounds ds).upTo (i + 1) :=
    (upTo_succ_of_ascending hfew hascending hfirst).trans
      (upTo_succ_of_ascending hfew hascending hbound).symm
  -- The buckets before this one hold what `hsame` says of all up to it, so it adds nothing.
  have hmono : (ofDurations bounds ds).upTo (bounds.idxOf bound + 1) ≤
      (ofDurations bounds ds).upTo i :=
    upTo_mono _ hbefore
  obtain ⟨hi, -⟩ := List.getElem?_eq_some_iff.1 hbound
  have hthere : i < (ofDurations bounds ds).buckets.length := by
    rw [length_buckets, ofDurations, bounds_recordAll]
    exact Nat.lt_succ_of_lt hi
  obtain ⟨count, hcount⟩ : ∃ count, (ofDurations bounds ds).buckets[i]? = some count :=
    ⟨_, List.getElem?_eq_getElem hthere⟩
  rw [upTo_succ hcount] at hsame
  have hzero : count = 0 := UInt64.toNat_inj.1 (by rw [UInt64.toNat_zero]; omega)
  rw [hcount, hzero]

end FewDurations

theorem sum_ofDurations (ds : List Duration) :
    (ofDurations bounds ds).sum.toNat = (ds.map Duration.recordedMicros).sum % 2 ^ 64 := by
  have hnone : (empty bounds).sum = 0 := rfl
  rw [ofDurations, sum_recordAll, hnone, UInt64.zero_add]
  exact UInt64.toNat_ofNat'

/-- As long as fewer durations are recorded than a counter can count, the buckets up to the first
one of each bound hold as many as do not exceed it, and those of its repetitions hold none; all
buckets together hold as many as the number of samples says, which is how many there are.  The
microseconds are added up in 64 bits. -/
theorem buckets_are_cumulative (hascending : bounds.Pairwise (· ≤ ·)) {ds : List Duration}
    (hfew : ds.length < 2 ^ 64) :
    (∀ bound ∈ bounds, (ofDurations bounds ds).upTo (bounds.idxOf bound + 1) =
        ds.countP fun d => d.recordedMicros ≤ bound.toNat) ∧
      (∀ i bound, bounds[i]? = some bound → bounds.idxOf bound < i →
        (ofDurations bounds ds).buckets[i]? = some 0) ∧
      (ofDurations bounds ds).total = (ofDurations bounds ds).samples.toNat ∧
      (ofDurations bounds ds).samples.toNat = ds.length ∧
      (ofDurations bounds ds).sum.toNat = (ds.map Duration.recordedMicros).sum % 2 ^ 64 := by
  have hsamples : (ofDurations bounds ds).samples.toNat = ds.length := samples_ofDurations hfew
  refine ⟨?_, ?_, (total_ofDurations hfew).trans hsamples.symm, hsamples, sum_ofDurations ds⟩
  · intro bound hbound
    exact upTo_succ_of_ascending hfew hascending (List.getElem?_idxOf hbound)
  · intro i bound hbound hbefore
    exact bucket_of_repeated hfew hascending hbound hbefore

namespace Latencies

/-- Two bounds are the same, and the last one is as large as a bound can be. -/
def limits : List UInt64 := [10, 100, 100, 0xffffffffffffffff]

/-- A duration on a bound, one past it by less than a microsecond, one past it by one, one on the
repeated bound, and the longest one there is. -/
def durations : List Duration := [⟨10000⟩, ⟨10999⟩, ⟨11000⟩, ⟨100000⟩, .limit]

/-- The longest duration is held to the last bound, which makes the sum run over. -/
theorem buckets_are_cumulative_of_latencies :
    limits.Pairwise (· ≤ ·) ∧ durations.length < 2 ^ 64 ∧
      (ofDurations limits durations).upTo 1 = 2 ∧
      (ofDurations limits durations).upTo 2 = 4 ∧
      (ofDurations limits durations).buckets[2]? = some 0 ∧
      (ofDurations limits durations).upTo 4 = 5 ∧
      (ofDurations limits durations).total = 5 ∧
      (ofDurations limits durations).sum.toNat = 130 := by
  have hascending : limits.Pairwise (· ≤ ·) := by decide
  have hfew : durations.length < 2 ^ 64 := by decide
  obtain ⟨hbounds, hrepeated, htotal, hsamples, hsum⟩ := buckets_are_cumulative hascending hfew
  refine ⟨hascending, hfew, ?_, ?_, hrepeated 2 100 rfl (by decide), ?_, ?_, ?_⟩
  · exact (hbounds 10 (by decide)).trans (by decide)
  · exact (hbounds 100 (by decide)).trans (by decide)
  · exact (hbounds 0xffffffffffffffff (by decide)).trans (by decide)
  · exact htotal.trans hsamples
  · exact hsum.trans (by decide)

end Latencies

end Histogram

end TupleWire
