import Chip8.Proofs.HostEvents
import Mathlib.Algebra.Ring.Int.Defs
import Mathlib.Algebra.Ring.Nat

/-!
# The bar is exact

A bar that watches a scan is opened first, advanced by positive amounts that add up to the number of
iterations, and closed last. In between it has always been advanced by the largest multiple of the
stride that the iterations have reached. This needs the last advance to fit the regular ones, which
stop short of the last iteration, whatever the stride is.

The iterations are counted in 32 bits, so a scan with more of them is refused before it begins, and
so is an advance by more.
-/

namespace Chip8

namespace Progress

def advanced : List Event → Int
  | [] => 0
  | .opened _ _ :: es => advanced es
  | .advanced amount :: es => amount + advanced es
  | .closed :: es => advanced es

theorem advanced_append (es fs : List Event) : advanced (es ++ fs) = advanced es + advanced fs := by
  induction es with
  | nil => exact (Int.zero_add _).symm
  | cons e es ih =>
      cases e with
      | advanced amount => rw [List.cons_append, advanced, advanced, ih, Int.add_assoc]
      | opened _ _ | closed => exact ih

theorem advanced_map (amounts : List Int) : advanced (amounts.map .advanced) = amounts.sum := by
  induction amounts with
  | nil => rfl
  | cons a amounts ih => rw [List.map_cons, advanced, ih, List.sum_cons]

namespace Plan

def events (p : Plan) : Bool → List Int → List Event
  | _, [] => []
  | isOpen, i :: is => p.eventsAt isOpen i ++ p.events (isOpen || i = 0) is

/-- A watched scan is the scan with the events of its iterations beside it. -/
theorem scan_watch {σ α β : Type} (p : Plan) (number : α → Int) (body : σ → α → σ × β)
    (w : Watched σ) (items : List α) :
    let watched := scan (p.watch number body) w items
    watched.1.state = (scan body w.state items).1 ∧ watched.2 = (scan body w.state items).2 ∧
      watched.1.events = w.events ++ p.events w.isOpen (items.map number) := by
  induction items generalizing w with
  | nil => exact ⟨rfl, rfl, (List.append_nil _).symm⟩
  | cons a items ih =>
      obtain ⟨hstate, hresults, hevents⟩ := ih (p.watch number body w a).1
      refine ⟨hstate, congrArg _ hresults, ?_⟩
      rw [List.map_cons, events, ← List.append_assoc]
      exact hevents

theorem events_true (p : Plan) (is : List Int) :
    p.events true is = is.flatMap (p.eventsAt true) := by
  induction is with
  | nil => rfl
  | cons i is ih => rw [events, Bool.true_or, ih, List.flatMap_cons]

/-- The bar is opened at iteration zero, so it does not matter whether it was open before. -/
theorem events_range (p : Plan) (isOpen : Bool) (m : Nat) :
    p.events isOpen ((List.range m).map Int.ofNat) =
      (List.range m).flatMap fun i : Nat => p.eventsAt true i := by
  cases m with
  | zero => rfl
  | succ m =>
      have first : p.eventsAt isOpen 0 = p.eventsAt true 0 := by
        simp only [eventsAt, Bool.or_true, decide_true]
      rw [List.range_succ_eq_map, List.map_cons, events, List.flatMap_cons]
      change p.eventsAt isOpen 0 ++ p.events (isOpen || decide ((0 : Int) = 0)) _ = _
      rw [first, decide_eq_true rfl, Bool.or_true, events_true, List.map_map, List.flatMap_map,
        List.flatMap_map]
      rfl

/-! ## A whole number of iterations -/

/-- The regular advances within the first `m` iterations. -/
def advances (p : Plan) (m : Nat) : List Int :=
  ((List.range m).filter fun i : Nat => p.advancesAt i).map fun _ => p.stride.truncated

/-- The last advance is never too short, as the regular ones stop two iterations before the end. -/
theorem remainder_pos {n k : Int} (h : 1 ≤ n) (pos : 1 ≤ k) : 0 < n - max 0 ((n - 2) / k * k) := by
  have below := Int.ediv_mul_le (n - 2) (Int.ne_of_gt pos)
  omega

section

variable {p : Plan} {n k : Int} (hn : p.total = .whole n) (hk : p.stride = .whole k) (pos : 1 ≤ k)

include hk

theorem advances_succ (m : Nat) :
    p.advances (m + 1) = p.advances m ++ if p.advancesAt m then [k] else [] := by
  have amount : p.stride.truncated = k := by rw [hk]; rfl
  rw [advances, List.range_succ, List.filter_append, List.map_append, ← advances, amount]
  congr 1
  rw [List.filter_singleton]
  cases p.advancesAt m <;> rfl

include hn

theorem eventsAt_of_lt {i : Nat} (hi : (i : Int) < n - 1) :
    p.eventsAt true i = (if i = 0 then [.opened (.whole n) p.title] else []) ++
      if p.advancesAt i then [.advanced k] else [] := by
  have running : p.endsAt i = false := by
    rw [← Bool.not_eq_true, endsAt_of_whole hn]
    omega
  have amount : p.stride.narrow.truncated = k := by rw [hk]; rfl
  simp only [eventsAt, running, hn, amount, Bool.true_or, if_true, List.append_nil,
    Int.natCast_eq_zero, Bool.false_eq_true, if_false]

theorem eventsAt_last {i : Nat} (hi : (i : Int) = n - 1) :
    p.eventsAt true i = (if i = 0 then [.opened (.whole n) p.title] else []) ++
      [.advanced (n - max 0 ((n - 2) / k * k)), .closed] := by
  have ends : p.endsAt i = true := (endsAt_of_whole hn i).mpr hi
  have irregular : p.advancesAt i = false := by
    rw [← Bool.not_eq_true, advancesAt_of_whole hn hk]
    omega
  have amount : p.remainder.narrow.truncated = n - max 0 ((n - 2) / k * k) := by
    rw [remainder_of_whole hn hk]
    rfl
  simp only [eventsAt, ends, irregular, hn, amount, Bool.true_or, if_true, List.append_nil,
    Int.natCast_eq_zero, Bool.false_eq_true, if_false]

theorem events_before_last (m : Nat) (hm : (m : Int) ≤ n - 1) :
    ((List.range m).flatMap fun i : Nat => p.eventsAt true i) =
      if m = 0 then [] else .opened (.whole n) p.title :: (p.advances m).map .advanced := by
  induction m with
  | zero => rfl
  | succ m ih =>
      rw [List.range_succ, List.flatMap_append, List.flatMap_singleton, ih (by omega),
        eventsAt_of_lt hn hk (by omega), advances_succ hk, List.map_append]
      by_cases first : m = 0
      · subst first
        simp [advances]
        split <;> rfl
      · simp [first]
        split <;> rfl

theorem events_all {m : Nat} (hm : (m : Int) = n - 1) :
    p.events false ((List.range (m + 1)).map Int.ofNat) = .opened (.whole n) p.title ::
      (p.advances m ++ [n - max 0 ((n - 2) / k * k)]).map .advanced ++ [.closed] := by
  rw [events_range, List.range_succ, List.flatMap_append, List.flatMap_singleton,
    events_before_last hn hk m (by omega), eventsAt_last hn hk hm]
  cases m with
  | zero => rfl
  | succ m => simp

include pos

theorem sum_advances {m : Nat} (hm : (m : Int) < n - 1) :
    (p.advances (m + 1)).sum = k * (m / k) := by
  induction m with
  | zero =>
      have irregular : p.advancesAt 0 = false := by
        rw [← Bool.not_eq_true, advancesAt_of_whole hn hk]
        omega
      simp [advances, irregular]
  | succ m ih =>
      -- the quotient grows by one where the stride divides, and there the bar is advanced
      obtain ⟨k, rfl⟩ := Int.eq_ofNat_of_zero_le (Int.le_trans (by decide) pos)
      have regular : p.advancesAt (m + 1 : Nat) = true ↔ k ∣ m + 1 := by
        rw [advancesAt_of_whole hn hk, ← Int.natCast_dvd_natCast, Int.dvd_iff_emod_eq_zero]
        omega
      rw [advances_succ hk, List.sum_append, ih (by omega), ← Int.natCast_ediv,
        ← Int.natCast_ediv, Nat.succ_div]
      by_cases divides : k ∣ m + 1
      · rw [if_pos (regular.mpr divides), if_pos divides, List.sum_singleton, Int.natCast_add,
          Int.mul_add, Int.natCast_one, Int.mul_one]
      · rw [if_neg (mt regular.mp divides), if_neg divides, List.sum_nil, Int.add_zero,
          Nat.add_zero]

theorem sum_advances_last {m : Nat} (hm : (m : Int) = n - 1) :
    (p.advances m).sum = max 0 ((n - 2) / k * k) := by
  cases m with
  | zero =>
      have below : (n - 2) / k * k ≤ n - 2 := Int.ediv_mul_le (n - 2) (Int.ne_of_gt pos)
      have none : max 0 ((n - 2) / k * k) = 0 := by omega
      rw [none]
      rfl
  | succ m =>
      have place : (m : Int) = n - 2 := by omega
      have nonneg : 0 ≤ (m : Int) / k * k :=
        Int.mul_nonneg (Int.ediv_nonneg (Int.natCast_nonneg m) (by omega)) (by omega)
      rw [sum_advances hn hk pos (by omega), ← place, Int.max_eq_right nonneg, Int.mul_comm]

/-- A scan opens the bar, advances it by positive amounts to the end, and closes it. -/
theorem events_exact (some : 1 ≤ n) :
    ∃ amounts : List Int,
      p.events false ((List.range n.toNat).map Int.ofNat) =
        .opened (.whole n) p.title :: amounts.map .advanced ++ [.closed] ∧
      (∀ a ∈ amounts, 0 < a) ∧ amounts.sum = n := by
  obtain ⟨m, hm⟩ := Int.eq_ofNat_of_zero_le (show 0 ≤ n - 1 by omega)
  have last : n.toNat = m + 1 := by omega
  refine ⟨p.advances m ++ [n - max 0 ((n - 2) / k * k)], ?_, ?_, ?_⟩
  · rw [last, events_all hn hk hm.symm]
  · intro a ha
    rcases List.mem_append.mp ha with regular | last
    · obtain ⟨_, -, rfl⟩ := List.mem_map.mp regular
      rw [hk]
      exact pos
    · obtain rfl := List.mem_singleton.mp last
      exact remainder_pos some pos
  · rw [List.sum_append, List.sum_singleton, sum_advances_last hn hk pos hm.symm]
    omega

theorem advanced_events {i : Nat} (hi : (i : Int) < n) :
    advanced (p.events false ((List.range (i + 1)).map Int.ofNat)) =
      if i = n - 1 then n else k * (i / k) := by
  by_cases last : (i : Int) = n - 1
  · rw [if_pos last, events_all hn hk last, advanced_append, advanced, advanced_map,
      List.sum_append, List.sum_singleton, sum_advances_last hn hk pos last, advanced, advanced]
    omega
  · have before : (i : Int) < n - 1 := by omega
    rw [if_neg last, events_range, events_before_last hn hk (i + 1) (by omega),
      if_neg (Nat.succ_ne_zero i), advanced, advanced_map, sum_advances hn hk pos before]

end

/-! ## Scans that can be watched -/

section

variable (n : Int) (stride : Option Int) (title : Option String)

def wholeStride : Int := max 1 (min (stride.getD (n / 20)) (if stride.isSome then n else 50))

theorem wholeStride_pos : 1 ≤ wholeStride n stride := by
  rw [wholeStride]
  omega

theorem wholeStride_le : wholeStride n stride ≤ max n 50 := by
  rw [wholeStride]
  split <;> omega

theorem checked_make_iff (space : Space) :
    (make (.whole n) (stride.map .whole) title).checked space =
      .ok (make (.whole n) (stride.map .whole) title) ↔ -2 ^ 31 < n ∧ n < 2 ^ 31 := by
  constructor
  · intro h
    simp only [checked, total_make, Count.rounds_whole, Count.isWhole_whole, if_true] at h
    obtain ⟨_, -, h⟩ := exists_of_bind_ok h
    obtain ⟨_, last, h⟩ := exists_of_bind_ok h
    obtain ⟨_, all, -⟩ := exists_of_bind_ok h
    rw [Loop.countable_eq_ok_iff] at last all
    omega
  · intro short
    have last : Loop.countable (n - 1) = .ok () := Loop.countable_eq_ok_iff.mpr (by omega)
    have all : Loop.countable (max n 0) = .ok () := Loop.countable_eq_ok_iff.mpr (by omega)
    have numbered := Loop.numberable_of_le space (n := n) (by omega)
    simp only [checked, total_make, Count.rounds_whole, Count.isWhole_whole, if_true, numbered,
      last, all]
    rfl

/-- No advance is larger than the number of iterations, or fifty. -/
theorem refusal?_make (short : -2 ^ 31 < n ∧ n < 2 ^ 31) (is : List Int) :
    (make (.whole n) (stride.map .whole) title).refusal? is = none := by
  rw [refusal?, List.findSome?_eq_none_iff]
  intro amount hmem
  obtain ⟨i, -, hi⟩ := List.mem_filterMap.mp hmem
  have hk := stride_make n stride title
  have pos := wholeStride_pos n stride
  have le := wholeStride_le n stride
  rw [← wholeStride] at hk
  rw [amountAt?, remainder_of_whole (total_make n _ title) hk, hk] at hi
  have fits (m : Int) (low : -2 ^ 31 < m) (high : m < 2 ^ 31) : Bits.fits 32 m = true :=
    Bits.fits_32_iff.mpr (by omega)
  split at hi
  · obtain rfl := Option.some.inj hi
    simp [fits (wholeStride n stride) (by omega) (by omega)]
  · split at hi
    · obtain rfl := Option.some.inj hi
      have below := Int.ediv_mul_le (n - 2) (Int.ne_of_gt pos)
      have last := fits (n - max 0 ((n - 2) / wholeStride n stride * wholeStride n stride))
        (by omega) (by omega)
      simp [last]
    · cases hi

end

variable {σ α β : Type}

/-- **The bar is exact for every stride.** -/
theorem bar_exact (n : Int) (stride : Option Int) (title : Option String) (number : α → Int)
    (body : σ → α → σ × β) (s : σ) {items : List α}
    (numbered : items.map number = (List.range n.toNat).map Int.ofNat) :
    let p := make (.whole n) (stride.map .whole) title
    let k := wholeStride n stride
    let watched (items : List α) := scan (p.watch number body) (Watched.start s) items
    p.stride = .whole k ∧ 1 ≤ k ∧
      (∀ space, p.checked space = .ok p ↔ -2 ^ 31 < n ∧ n < 2 ^ 31) ∧
      (-2 ^ 31 < n ∧ n < 2 ^ 31 → ∀ is, p.refusal? is = none) ∧
      ((watched items).1.state, (watched items).2) = scan body s items ∧
      (n ≤ 0 → (watched items).1.events = []) ∧
      (1 ≤ n → ∃ amounts : List Int,
        (watched items).1.events =
          .opened (.whole n) p.title :: amounts.map .advanced ++ [.closed] ∧
        (∀ a ∈ amounts, 0 < a) ∧ amounts.sum = n) ∧
      ∀ i : Nat, (i : Int) < n →
        advanced (watched (items.take (i + 1))).1.events =
          if i = n - 1 then n else k * (i / k) := by
  intro p k watched
  have hn : p.total = .whole n := total_make n _ title
  have hk : p.stride = .whole k := stride_make n stride title
  have pos : 1 ≤ k := wholeStride_pos n stride
  have events (m : Nat) : (watched (items.take m)).1.events =
      p.events false ((List.range (min m n.toNat)).map Int.ofNat) := by
    obtain ⟨-, -, hevents⟩ := scan_watch p number body (Watched.start s) (items.take m)
    rw [List.map_take, numbered, ← List.map_take, List.take_range] at hevents
    exact hevents
  have all : (watched items).1.events = p.events false ((List.range n.toNat).map Int.ofNat) := by
    obtain ⟨-, -, hevents⟩ := scan_watch p number body (Watched.start s) items
    rw [numbered] at hevents
    exact hevents
  obtain ⟨hstate, hresults, -⟩ := scan_watch p number body (Watched.start s) items
  refine ⟨hk, pos, checked_make_iff n stride title, refusal?_make n stride title,
    Prod.ext hstate hresults, ?_, ?_, ?_⟩
  · intro nothing
    rw [all, Int.toNat_of_nonpos nothing]
    rfl
  · intro some
    rw [all]
    exact events_exact hn hk pos some
  · intro i hi
    have within : min (i + 1) n.toNat = i + 1 := by omega
    rw [events, within]
    exact advanced_events hn hk pos hi

/-- Seven iterations in strides of three: the bar stands at three when the stride divides the number
of the last iteration but one, and makes up for the rest at the end. -/
theorem bar_exact_seven :
    let p := make 7 (some 3) none
    let items := [(0, 'a'), (1, 'b'), (2, 'c'), (3, 'd'), (4, 'e'), (5, 'f'), (6, 'g')]
    let watched := scan (p.watch Prod.fst fun (s : Int) a => (s + a.1, a.2)) (Watched.start 0)
    (items.map Prod.fst = (List.range (7 : Int).toNat).map Int.ofNat) ∧
      (watched items).1.state = 21 ∧ advanced (watched (items.take 6)).1.events = 3 ∧
      ∃ amounts : List Int,
        (watched items).1.events = .opened 7 p.title :: amounts.map .advanced ++ [.closed] ∧
        (∀ a ∈ amounts, 0 < a) ∧ amounts.sum = 7 := by
  intro p items watched
  have numbered : items.map Prod.fst = (List.range (7 : Int).toNat).map Int.ofNat := by decide
  obtain ⟨-, -, -, -, hstate, -, all, at_⟩ :=
    bar_exact 7 (some 3) none Prod.fst (fun (s : Int) a => (s + a.1, a.2)) 0 numbered
  refine ⟨numbered, congrArg Prod.fst hstate, at_ 5 (by decide), all (by decide)⟩

/-- From `2 ^ 31` iterations on a scan is refused, and so is the last advance of a bar that is moved
by hand. -/
theorem long_scan_refused :
    let p := make (.whole (2 ^ 31)) (some (.whole (2 ^ 31))) none
    (∀ space, p.checked space = .error (.notAnOperand (2 ^ 31))) ∧
      p.refusal? [0, 2 ^ 31 - 1] = some (.notAWord (2 ^ 31)) := by
  intro p
  refine ⟨fun space => ?_, by decide +kernel⟩
  change (Loop.numberable space (2 ^ 31) >>= fun _ => _) = _
  rw [Loop.numberable_of_le space (by decide)]
  rfl

end Plan

end Progress

end Chip8
