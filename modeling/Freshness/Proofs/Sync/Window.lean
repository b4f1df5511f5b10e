import Freshness.Proofs.Sync.Aggregate
import Freshness.Proofs.Sync.Clock

/-!
# The window

The containers of a pod pass through a window of `n` places in their order.  A container keeps its place
until all before it have left theirs, also if it has finished, so that the container at position `j` begins
when all those up to position `j - n` have finished: not before, and not after, since no time passes while
the window has room.

`Opens` states the time at which a position comes into the window, given when the containers finish.
`Windowed` is what every step keeps: all containers have begun when their positions came into the window,
and if the window has room, then that of the next container comes into it now.
-/

namespace Freshness.Sync

/-- The last of the times up to a position: all of them are known, and none is later. -/
def IsLastUpTo (times : Nat → Option Nat) (k t : Nat) : Prop :=
  (∀ i ≤ k, ∃ u, times i = some u ∧ u ≤ t) ∧ ∃ i ≤ k, times i = some t

/-- A position comes into a window of `n` places at a time: at once if it is one of the first `n`, and
else at the last of the times of those that must have left the window before. -/
def Opens (times : Nat → Option Nat) (n j t : Nat) : Prop :=
  (j < n ∧ t = 0) ∨ (n ≤ j ∧ IsLastUpTo times (j - n) t)

/-- When the container at a position ended. -/
def State.endedAt? (s : State) (i : Nat) : Option Nat := (s.slots[i]?).bind (·.progress.endedAt?)

/-! ## Room in the window -/

/-- A position that has come into the window stays there when more times become known. -/
lemma Opens.mono {f g : Nat → Option Nat} {n j t : Nat} (h : Opens f n j t)
    (hfg : ∀ i u, f i = some u → g i = some u) : Opens g n j t := by
  rcases h with hfirst | ⟨hn, hall, i, hi, hlast⟩
  · exact .inl hfirst
  · refine .inr ⟨hn, fun k hk => ?_, i, hi, hfg i t hlast⟩
    obtain ⟨u, hu, hut⟩ := hall k hk
    exact ⟨u, hfg k u hu, hut⟩

/-- The last of some times is one time. -/
lemma IsLastUpTo.unique {times : Nat → Option Nat} {k t u : Nat} (h : IsLastUpTo times k t)
    (h' : IsLastUpTo times k u) : t = u := by
  obtain ⟨hall, i, hi, hlast⟩ := h
  obtain ⟨hall', j, hj, hlast'⟩ := h'
  obtain ⟨a, ha, hat⟩ := hall j hj
  obtain ⟨b, hb, hbu⟩ := hall' i hi
  obtain rfl := Option.some.inj (hlast'.symm.trans ha)
  obtain rfl := Option.some.inj (hlast.symm.trans hb)
  exact Nat.le_antisymm hbu hat

/-- A position comes into the window once. -/
lemma Opens.unique {times : Nat → Option Nat} {n j t u : Nat} (h : Opens times n j t)
    (h' : Opens times n j u) : t = u := by
  rcases h with ⟨hj, rfl⟩ | ⟨hj, hlast⟩ <;> rcases h' with ⟨hj', rfl⟩ | ⟨hj', hlast'⟩
  · rfl
  · omega
  · omega
  · exact hlast.unique hlast'

/-- Once a position has come into the window, the times of those that must have left it are known. -/
lemma Opens.isSome {times : Nat → Option Nat} {n i j t : Nat} (h : Opens times n j t) (hij : i + n ≤ j) :
    (times i).isSome = true := by
  rcases h with ⟨hj, -⟩ | ⟨-, hall, -⟩
  · omega
  · obtain ⟨u, hu, -⟩ := hall i (by omega)
    rw [hu]
    rfl

namespace State

variable {s : State} {n : Nat}

/-- A container that is not under way has ended. -/
lemma isSome_endedAt?_iff {i : Nat} {slot : Slot} (hslot : s.slots[i]? = some slot) :
    (s.endedAt? i).isSome = true ↔ slot.isWaiting = false := by
  unfold endedAt? Slot.isWaiting Slot.check?
  rw [hslot, Option.bind_some]
  cases slot.progress <;> simp [Progress.endedAt?]

/-- The window has room exactly if all containers have ended that must have left it for the next one. -/
lemma hasRoom_iff (hn : 0 < n) :
    s.hasRoom n = true ↔ ∀ i, i + n ≤ s.slots.length → (s.endedAt? i).isSome = true := by
  unfold hasRoom head
  rw [decide_eq_true_iff]
  constructor
  · intro hroom i hi
    have hlt : i < s.slots.findIdx (·.isWaiting) := by omega
    have hlength : i < s.slots.length := by omega
    rw [isSome_endedAt?_iff (List.getElem?_eq_getElem hlength)]
    exact List.not_of_lt_findIdx hlt
  · intro hended
    by_contra hfull
    have hlt : s.slots.findIdx (·.isWaiting) < s.slots.length := by omega
    have hwaiting := List.findIdx_getElem (p := Slot.isWaiting) (w := hlt)
    have hnot := (isSome_endedAt?_iff (List.getElem?_eq_getElem hlt)).1 (hended _ (by omega))
    rw [hwaiting] at hnot
    cases hnot

/-- What ended has ended by now. -/
lemma OnTime.endedAt?_le (h : s.OnTime) {i t : Nat} (ht : s.endedAt? i = some t) : t ≤ s.now := by
  obtain ⟨slot, hslot, hended⟩ := Option.bind_eq_some_iff.1 ht
  have hontime := h.progress slot (List.mem_of_getElem? hslot)
  cases hp : slot.progress with
  | waiting check => rw [hp] at hended; cases hended
  | ended u e =>
    rw [hp] at hended hontime
    obtain rfl := Option.some.inj hended
    exact hontime

/-- If the window has room because of one that ended now, then the next position comes into it now. -/
lemma OnTime.opens (h : s.OnTime) (hn : 0 < n) (hroom : s.hasRoom n = true) {i : Nat}
    (hi : i + n ≤ s.slots.length) (hnow : s.endedAt? i = some s.now) :
    Opens s.endedAt? n s.slots.length s.now := by
  refine .inr ⟨by omega, fun k hk => ?_, i, by omega, hnow⟩
  obtain ⟨u, hu⟩ := Option.isSome_iff_exists.1 ((hasRoom_iff hn).1 hroom k (by omega))
  exact ⟨u, hu, h.endedAt?_le hu⟩

/-- A turn of a container leaves the times at which others ended. -/
lemma endedAt?_turn {i : Nat} {slot : Slot} (hslot : s.slots[i]? = some slot) (t : Turn) (j : Nat) :
    (s.turn i slot t).endedAt? j = if j = i then t.progress.endedAt? else s.endedAt? j := by
  unfold endedAt?
  rw [slots_turn]
  by_cases hij : j = i
  · subst hij
    rw [if_pos rfl, List.getElem?_set_self (List.getElem?_eq_some_iff.1 hslot).1]
    rfl
  · rw [if_neg hij, List.getElem?_set_ne (Ne.symm hij)]

/-- A container under way has not ended. -/
lemma endedAt?_eq_none {i : Nat} {slot : Slot} {check : Check} (hslot : s.slots[i]? = some slot)
    (hcheck : slot.progress = .waiting check) : s.endedAt? i = none := by
  unfold endedAt?
  rw [hslot, Option.bind_some, hcheck]
  rfl

/-- What had ended before a turn of a container under way had ended at the same time after it. -/
lemma endedAt?_turn_mono {i : Nat} {slot : Slot} {check : Check} (hslot : s.slots[i]? = some slot)
    (hcheck : slot.progress = .waiting check) (t : Turn) {j u : Nat} (hu : s.endedAt? j = some u) :
    (s.turn i slot t).endedAt? j = some u := by
  have hji : j ≠ i := by
    rintro rfl
    rw [endedAt?_eq_none hslot hcheck] at hu
    cases hu
  rw [endedAt?_turn hslot, if_neg hji]
  exact hu

/-- A turn of a container leaves the times at which all have begun. -/
lemma exists_begun_of_turn {i j : Nat} {slot slot' : Slot} {t : Turn} (hslot : s.slots[i]? = some slot)
    (hslot' : (s.turn i slot t).slots[j]? = some slot') :
    ∃ old, s.slots[j]? = some old ∧ old.begun = slot'.begun := by
  rcases slot_of_turn hslot hslot' with ⟨rfl, rfl⟩ | ⟨-, hold⟩
  · exact ⟨slot, hslot, rfl⟩
  · exact ⟨slot', hold, rfl⟩

/-- If the window has no room, then one that must leave it has not ended. -/
lemma exists_endedAt?_eq_none (hn : 0 < n) (hfull : s.hasRoom n = false) :
    ∃ k, k + n ≤ s.slots.length ∧ s.endedAt? k = none := by
  by_contra hnone
  have hroom : s.hasRoom n = true := by
    refine (hasRoom_iff hn).2 fun k hk => ?_
    by_contra hwaiting
    exact hnone ⟨k, hk, Option.not_isSome_iff_eq_none.1 hwaiting⟩
  rw [hfull] at hroom
  cases hroom

/-- If a turn of a container makes room in the window, then the container had to leave it and has ended. -/
lemma isSome_endedAt?_of_turn (hn : 0 < n) {i : Nat} {slot : Slot} {t : Turn}
    (hslot : s.slots[i]? = some slot) (hfull : s.hasRoom n = false)
    (hroom : (s.turn i slot t).hasRoom n = true) :
    i + n ≤ s.slots.length ∧ t.progress.endedAt?.isSome = true := by
  obtain ⟨k, hk, hkended⟩ := exists_endedAt?_eq_none hn hfull
  have hlength : k + n ≤ (s.turn i slot t).slots.length := by rwa [slots_turn, List.length_set]
  have hsome := (hasRoom_iff hn).1 hroom k hlength
  rw [endedAt?_turn hslot] at hsome
  by_cases hki : k = i
  · rw [if_pos hki] at hsome
    exact ⟨hki ▸ hk, hsome⟩
  · rw [if_neg hki, hkended] at hsome
    cases hsome

end State

/-! ## The course -/

namespace Context

variable {ctx : Context} {earlier : String → Nat} {s s' : State}

/-- All containers have begun when their positions came into the window, and if there is room for one more,
its position comes into the window now. -/
structure Windowed (ctx : Context) (s : State) : Prop where
  begun : ∀ j slot, s.slots[j]? = some slot → Opens s.endedAt? ctx.limits.concurrency j slot.begun
  next : s.queue ≠ [] → s.hasRoom ctx.limits.concurrency = true →
    Opens s.endedAt? ctx.limits.concurrency s.slots.length s.now

/-- The next turn of a check keeps the window, if the clock has not gone on while there was room. -/
lemma Windowed.turn (h : ctx.Windowed s) (hn : 0 < ctx.limits.concurrency) {i time : Nat}
    {slot : Slot} {check : Check} {t : Turn} (hslot : s.slots[i]? = some slot)
    (hcheck : slot.progress = .waiting check)
    (ht : t.progress.endedAt? = none ∨ t.progress.endedAt? = some time)
    (hontime : (State.turn { s with now := time } i slot t).OnTime)
    (hstill : time = s.now ∨ s.queue = [] ∨ s.hasRoom ctx.limits.concurrency = false) :
    ctx.Windowed (State.turn { s with now := time } i slot t) := by
  have hmono : ∀ j u, s.endedAt? j = some u →
      (State.turn { s with now := time } i slot t).endedAt? j = some u := fun j u hu =>
    State.endedAt?_turn_mono (s := { s with now := time }) hslot hcheck t hu
  have hlength : (State.turn { s with now := time } i slot t).slots.length = s.slots.length := by
    rw [State.slots_turn, List.length_set]
  refine ⟨fun j slot' hslot' => ?_, fun hqueue hroom => ?_⟩
  · obtain ⟨old, hold, hbegun⟩ := State.exists_begun_of_turn (s := { s with now := time }) hslot hslot'
    rw [← hbegun]
    exact (h.begun j old hold).mono hmono
  · cases hbefore : s.hasRoom ctx.limits.concurrency with
    | true =>
      have hnow : time = s.now := by
        rcases hstill with hnow | hnil | hfull
        · exact hnow
        · exact absurd hnil hqueue
        · rw [hbefore] at hfull
          cases hfull
      have hnext := (h.next hqueue hbefore).mono hmono
      rw [hlength]
      exact hnow ▸ hnext
    | false =>
      -- the container of this turn was the one that was missing
      obtain ⟨hi, hsome⟩ :=
        State.isSome_endedAt?_of_turn (s := { s with now := time }) hn hslot hbefore hroom
      refine hontime.opens hn hroom (by rwa [hlength]) ?_
      rw [State.endedAt?_turn (s := { s with now := time }) hslot, if_pos rfl]
      refine ht.resolve_left fun hnone => ?_
      rw [hnone] at hsome
      cases hsome

/-- The beginning of the next container keeps the window. -/
lemma Windowed.begin (h : ctx.Windowed s) (hn : 0 < ctx.limits.concurrency) {c : Container}
    {rest : List Container} (hqueue : s.queue = c :: rest) (hroom : s.hasRoom ctx.limits.concurrency = true)
    (hontime : (ctx.beginNext earlier s c rest).OnTime) : ctx.Windowed (ctx.beginNext earlier s c rest) := by
  have hmono : ∀ i u, s.endedAt? i = some u → (ctx.beginNext earlier s c rest).endedAt? i = some u := by
    intro i u hu
    obtain ⟨slot, hslot, hended⟩ := Option.bind_eq_some_iff.1 hu
    unfold State.endedAt?
    rw [slots_beginNext, List.getElem?_append_left (List.getElem?_eq_some_iff.1 hslot).1, hslot]
    exact hended
  have hopen : Opens (ctx.beginNext earlier s c rest).endedAt? ctx.limits.concurrency s.slots.length s.now :=
    (h.next (by rw [hqueue]; exact List.cons_ne_nil _ _) hroom).mono hmono
  refine ⟨fun j slot hslot => ?_, fun _ hroom' => ?_⟩
  · rcases slot_of_beginNext hslot with ⟨rfl, rfl⟩ | ⟨-, hold⟩
    · exact hopen
    · exact (h.begun j slot hold).mono hmono
  · have hlength : (ctx.beginNext earlier s c rest).slots.length = s.slots.length + 1 := by
      rw [slots_beginNext, List.length_append, List.length_singleton]
    rcases hopen with ⟨hfirst, hzero⟩ | ⟨hfull, -, i, hi, hlast⟩
    · by_cases hnext : s.slots.length + 1 < ctx.limits.concurrency
      · rw [hlength]
        exact .inl ⟨hnext, hzero⟩
      · -- the window has just become full, and nothing can have ended later than at the start
        have hi : 0 + ctx.limits.concurrency ≤ (ctx.beginNext earlier s c rest).slots.length := by omega
        obtain ⟨u, hu⟩ := Option.isSome_iff_exists.1 ((State.hasRoom_iff hn).1 hroom' 0 hi)
        have hle : u ≤ s.now := hontime.endedAt?_le hu
        have hnow : u = s.now := by omega
        exact hontime.opens hn hroom' hi (hnow ▸ hu)
    · exact hontime.opens hn hroom' (by omega) hlast

/-- A turn of a check ends it, if at all, at the time of the turn. -/
lemma CheckTurn.endedAt? {c : Container} {time : Nat} {t : Turn} (h : ctx.CheckTurn c time t) :
    t.progress.endedAt? = none ∨ t.progress.endedAt? = some time := by
  cases h with
  | waits _ => exact .inl rfl
  | ends _ => exact .inr rfl

/-- The clock stands still while the window has room. -/
lemma Idle.now_or_full (h : ctx.Idle s) (hontime : s.OnTime) {time : Nat} {due : Due}
    (hdue : earliest? s.allDue = some (time, due)) :
    time = s.now ∨ s.queue = [] ∨ s.hasRoom ctx.limits.concurrency = false := by
  rcases h.due_by_now_or_full hdue with ⟨-, hle⟩ | hfull
  · exact .inl (Nat.le_antisymm hle (hontime.now_le hdue))
  · exact .inr hfull

/-- Every step keeps the window. -/
theorem Windowed.step (h : ctx.Windowed s) (hn : 0 < ctx.limits.concurrency)
    (hontime : s.OnTime) (hstep : ctx.Step earlier s s') : ctx.Windowed s' := by
  have hontime' : s'.OnTime := onTime_step hontime hstep
  cases hstep with
  | giveUp _ _ hslot hcheck => exact h.turn hn hslot hcheck (.inr rfl) hontime' (.inl rfl)
  | begin hqueue hroom _ _ => exact h.begin hn hqueue hroom hontime'
  | wake hidle hdue hslot hcheck _ _ =>
    exact h.turn hn hslot hcheck (checkTurn_conclude _ _ _).endedAt? hontime'
      (hidle.now_or_full hontime hdue)
  | lapse hidle hdue hslot hcheck _ _ =>
    exact h.turn hn hslot hcheck (.inr rfl) hontime' (hidle.now_or_full hontime hdue)
  | cancel hidle hdue _ =>
    -- a cancellation from outside is no check, so nothing but a full window lets the clock go on to it
    refine ⟨h.begun, fun hqueue hroom => ?_⟩
    rcases hidle.due_by_now_or_full hdue with ⟨hcheck, -⟩ | hnil | hfull
    · cases hcheck
    · exact absurd hnil hqueue
    · have hroom' : s.hasRoom ctx.limits.concurrency = true := hroom
      rw [hfull] at hroom'
      cases hroom'

/-- The window is open for the first containers at the start. -/
lemma windowed_start (hn : 0 < ctx.limits.concurrency) (t : Task) : ctx.Windowed t.start where
  begun j slot hslot := by cases hslot
  next _ _ := .inl ⟨hn, rfl⟩

/-- At every point of the course the containers have begun when the window opened for them. -/
theorem windowed_steps (hn : 0 < ctx.limits.concurrency) (earlier : String → Nat) (t : Task) (m : Nat) :
    ctx.Windowed (ctx.steps earlier m t.start) :=
  (steps_invariant (P := fun s => s.OnTime ∧ ctx.Windowed s)
    ⟨onTime_start_task t, windowed_start hn t⟩
    (fun h hstep => ⟨onTime_step h.1 hstep, h.2.step hn h.1 hstep⟩) m).2

end Context

end Freshness.Sync
