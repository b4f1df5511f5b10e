import Freshness.Proofs.Store.Entries
import Freshness.Proofs.Sync.Report

/-!
# Completions

A container comes to its ending by what is found out about it: that it is not to be checked, that its
annotations are wrong, or how its check ended (`endingBy?`).  `completions` reads from a trace which
containers came to which endings, in the order in which they did.

The store hears of two kinds of endings only: an ending with a verdict puts it into the place of the
container, and a disabled container empties its place.  `changes_eq_steps` shows at every point of the
course that the changes of the store are exactly those of the completions, in their order.
-/

namespace Freshness.Sync

/-- A container, by its place in the store, that came to an ending. -/
structure Completion where
  key : Store.Key
  ending : Ending
  deriving DecidableEq, Repr

/-- Whether an ending settles what the store holds for its container: it is recorded, or the container is
disabled. -/
def Ending.settles (e : Ending) : Bool := e.outcome == .recorded || e.outcome == .disabled

/-- The change of the store that a completion calls for. -/
def Completion.change? : Completion → Option Store.Change
  | ⟨k, .recorded v⟩ => some (.add ⟨k, v⟩)
  | ⟨k, .disabled⟩ => some (.remove k)
  | _ => none

/-- The ending to which an event brings a container. -/
def Context.endingBy? (ctx : Context) (c : Container) : Event → Option Ending
  | .enablementAsked _ _ false => some .disabled
  | .optionsAsked name =>
    match ctx.resolver.options name with
    | .error issues => some (.failed (.configuration name issues))
    | .ok _ => none
  | .checkEnded .pending => some .pending
  | .checkEnded (.found v) => some (.recorded v)
  | .checkEnded (.failed (.noVersionFound image)) => some (.noVersionFound (.noVersionFound image))
  | .checkEnded (.failed f) => some (.failed (.check c.name f))
  | _ => none

/-- The completion that a moment is, if it is one of a container among those given. -/
def Context.completion? (ctx : Context) (containers : List Container) (m : Moment) :
    Option Completion :=
  m.position.bind fun i => (containers[i]?).bind fun c =>
    (ctx.endingBy? c m.event).map fun e => ⟨ctx.key c, e⟩

/-- The completions in a trace, in their order. -/
def Context.completions (ctx : Context) (containers : List Container) (trace : List Moment) :
    List Completion :=
  trace.filterMap (ctx.completion? containers)

/-- The changes of the store in a trace, in their order. -/
def changesIn (trace : List Moment) : List Store.Change := trace.filterMap (·.event.change?)

namespace Context

variable {ctx : Context} {c : Container} {es : List Event}

/-! ## The endings of one container -/

/-- The events of a container change the store as the endings call for that they bring the container to. -/
def ChangesMatch (ctx : Context) (c : Container) (es : List Event) : Prop :=
  es.filterMap (·.change?) =
    ((es.filterMap (ctx.endingBy? c)).map (Completion.mk (ctx.key c))).filterMap (·.change?)

/-- Events that match may follow events that do. -/
lemma ChangesMatch.append {es' : List Event} (h : ctx.ChangesMatch c es) (h' : ctx.ChangesMatch c es') :
    ctx.ChangesMatch c (es ++ es') := by
  unfold ChangesMatch at *
  rw [List.filterMap_append, List.filterMap_append, List.map_append, List.filterMap_append, h, h']

/-- An answer brings a container to the ending that it makes of it. -/
lemma endingBy?_checkEnded (ctx : Context) (c : Container) (a : Answer) :
    ctx.endingBy? c (.checkEnded a) = some (endingOf c a) := by
  cases a with
  | pending => rfl
  | found v => rfl
  | failed f => cases f <;> rfl

/-- The events of an ending bring a container to no further one. -/
lemma filterMap_endingBy?_endingEvents (ctx : Context) (c : Container) (e : Ending) :
    (ctx.endingEvents c e).filterMap (ctx.endingBy? c) = [] := by
  cases e <;> rfl

/-- The events of an ending change the store as the completion calls for. -/
lemma filterMap_change?_endingEvents (ctx : Context) (c : Container) (e : Ending) :
    (ctx.endingEvents c e).filterMap (·.change?) = (Completion.change? ⟨ctx.key c, e⟩).toList := by
  cases e <;> rfl

/-- What stands aside brings a container to no ending. -/
lemma filterMap_endingBy?_of_isAside {pre : List Event} (hpre : ∀ e ∈ pre, e.isAside = true) :
    pre.filterMap (ctx.endingBy? c) = [] := by
  refine filterMap_of_isAside (fun ev haside => ?_) hpre
  cases ev <;> simp_all [Event.isAside, endingBy?]

/-- What stands aside does not change the store. -/
lemma changesMatch_of_isAside {pre : List Event} (hpre : ∀ e ∈ pre, e.isAside = true) :
    ctx.ChangesMatch c pre := by
  have hnone : pre.filterMap (·.change?) = [] := by
    refine filterMap_of_isAside (fun ev haside => ?_) hpre
    cases ev <;> simp_all [Event.isAside, Event.change?]
  unfold ChangesMatch
  rw [hnone, filterMap_endingBy?_of_isAside hpre]
  rfl

/-- What opens the work on a container with options brings it to no ending. -/
lemma filterMap_endingBy?_opening {o : Options} (hoptions : ctx.resolver.options c.name = .ok o) :
    (ctx.opening c).filterMap (ctx.endingBy? c) = [] := by
  have hok : ctx.endingBy? c (.optionsAsked c.name) = none := by simp [endingBy?, hoptions]
  have hasked : ctx.endingBy? c (.enablementAsked c.name ctx.limits.checkByDefault true) = none := rfl
  unfold opening
  rw [List.filterMap_cons_none hasked, List.filterMap_cons_none hok]
  rfl

/-- What opens the work on a container with options does not change the store. -/
lemma changesMatch_opening {o : Options} (hoptions : ctx.resolver.options c.name = .ok o) :
    ctx.ChangesMatch c (ctx.opening c) := by
  unfold ChangesMatch
  rw [filterMap_endingBy?_opening hoptions]
  rfl

/-- Events that bring a container to an ending and are followed by those of that ending. -/
lemma filterMap_endingBy?_cons {ev : Event} {e : Ending} (hev : ctx.endingBy? c ev = some e) :
    (ev :: ctx.endingEvents c e).filterMap (ctx.endingBy? c) = [e] := by
  rw [List.filterMap_cons_some hev, filterMap_endingBy?_endingEvents]

/-- An event that brings a container to an ending goes before the change that this calls for. -/
lemma changesMatch_cons {ev : Event} {e : Ending} (hev : ctx.endingBy? c ev = some e)
    (hchange : ev.change? = none) : ctx.ChangesMatch c (ev :: ctx.endingEvents c e) := by
  unfold ChangesMatch
  rw [List.filterMap_cons_none hchange, filterMap_endingBy?_cons hev, filterMap_change?_endingEvents]
  cases e <;> rfl

/-- A turn of a check changes the store as the ending calls for that it brings the container to. -/
lemma CheckTurn.changesMatch {time : Nat} {t : Turn} (h : ctx.CheckTurn c time t) :
    ctx.ChangesMatch c t.events := by
  cases h with
  | waits hpre => exact changesMatch_of_isAside hpre
  | ends hpre =>
    exact (changesMatch_of_isAside hpre).append (changesMatch_cons (endingBy?_checkEnded ctx c _) rfl)

/-- The annotations of a container bring it to an ending if they are wrong. -/
lemma endingBy?_optionsAsked {issues : List Issue} (h : ctx.resolver.options c.name = .error issues) :
    ctx.endingBy? c (.optionsAsked c.name) = some (.failed (.configuration c.name issues)) := by
  simp [endingBy?, h]

/-- What a container has come to changes the store as its ending calls for. -/
lemma Account.changesMatch {p : Progress} (h : ctx.Account c es p) : ctx.ChangesMatch c es := by
  have hasked : ctx.ChangesMatch c [.enablementAsked c.name ctx.limits.checkByDefault true] := rfl
  cases h with
  | disabled _ => exact changesMatch_cons rfl rfl
  | misconfigured _ hoptions =>
    exact hasked.append (changesMatch_cons (endingBy?_optionsAsked hoptions) rfl)
  | checking _ hoptions hpre =>
    exact (changesMatch_opening hoptions).append (changesMatch_of_isAside hpre)
  | checked _ hoptions hpre =>
    exact ((changesMatch_opening hoptions).append (changesMatch_of_isAside hpre)).append
      (changesMatch_cons (endingBy?_checkEnded ctx c _) rfl)

/-- What a container that has ended has come to brings it to its ending and to no other. -/
lemma Account.filterMap_endingBy? {time : Nat} {e : Ending} (h : ctx.Account c es (.ended time e)) :
    es.filterMap (ctx.endingBy? c) = [e] := by
  cases h with
  | disabled _ => exact filterMap_endingBy?_cons rfl
  | misconfigured _ hoptions => exact filterMap_endingBy?_cons (endingBy?_optionsAsked hoptions)
  | checked _ hoptions hpre =>
    rw [List.filterMap_append, List.filterMap_append, filterMap_endingBy?_opening hoptions,
      filterMap_endingBy?_of_isAside hpre, filterMap_endingBy?_cons (endingBy?_checkEnded ctx c _)]
    rfl

/-! ## The completions of a pod -/

variable {containers : List Container} {earlier : String → Nat} {s s' : State} {i : Nat}

lemma completions_append (l m : List Moment) :
    ctx.completions containers (l ++ m) = ctx.completions containers l ++ ctx.completions containers m :=
  List.filterMap_append ..

lemma changesIn_append (l m : List Moment) : changesIn (l ++ m) = changesIn l ++ changesIn m :=
  List.filterMap_append ..

/-- A turn of a container brings that container to its endings. -/
lemma completions_moments (hc : containers[i]? = some c) (t : Turn) (time : Nat) (spans : List Log.Span) :
    ctx.completions containers (t.moments time i spans) =
      (t.events.filterMap (ctx.endingBy? c)).map (Completion.mk (ctx.key c)) := by
  unfold completions Turn.moments
  rw [List.filterMap_map, List.map_filterMap]
  refine List.filterMap_congr fun e _ => ?_
  simp [completion?, hc]

/-- The changes in a turn are those of its events. -/
lemma changesIn_moments (t : Turn) (time i : Nat) (spans : List Log.Span) :
    changesIn (t.moments time i spans) = t.events.filterMap (·.change?) := by
  unfold changesIn Turn.moments
  rw [List.filterMap_map]
  rfl

/-- What happens to the pod as a whole completes no container. -/
lemma completions_of_position_eq_none {l : List Moment} (h : ∀ m ∈ l, m.position = none) :
    ctx.completions containers l = [] := by
  refine List.filterMap_eq_nil_iff.2 fun m hm => ?_
  simp [completion?, h m hm]

/-- Completions are at the places of the containers of the pod. -/
lemma exists_of_mem_completions {trace : List Moment} {p : Completion}
    (h : p ∈ ctx.completions containers trace) : ∃ c ∈ containers, p.key = ctx.key c := by
  obtain ⟨m, -, hm⟩ := List.mem_filterMap.1 h
  obtain ⟨j, -, hrest⟩ := Option.bind_eq_some_iff.1 hm
  obtain ⟨c, hc, hcompletion⟩ := Option.bind_eq_some_iff.1 hrest
  obtain ⟨e, -, rfl⟩ := Option.map_eq_some_iff.1 hcompletion
  exact ⟨c, List.mem_of_getElem? hc, rfl⟩

/-- In a pod whose containers have names of their own, a name stands at one position only. -/
lemma position_eq_of_name_eq (hnames : (containers.map (·.name)).Nodup) {j : Nat} {d : Container}
    (hc : containers[i]? = some c) (hd : containers[j]? = some d) (hname : d.name = c.name) : j = i := by
  have hnamed : ∀ {k : Nat} {x : Container}, containers[k]? = some x →
      (containers.map (·.name))[k]? = some x.name := fun hk => by
    rw [List.getElem?_map, hk]
    rfl
  have hj : j < (containers.map (·.name)).length := (List.getElem?_eq_some_iff.1 (hnamed hd)).1
  exact (List.getElem?_inj hj hnames).1 ((hnamed hd).trans (hname ▸ (hnamed hc).symm))

/-- A container stands in its slot at its position. -/
lemma Invariant.getElem?_of_slot (h : ctx.Invariant earlier containers s) {slot : Slot}
    (hslot : s.slots[i]? = some slot) : containers[i]? = some slot.container := by
  have hi : i < (s.slots.map (·.container)).length := by
    rw [List.length_map]
    exact (List.getElem?_eq_some_iff.1 hslot).1
  rw [← h.containers_eq, List.getElem?_append_left hi, List.getElem?_map, hslot]
  rfl

/-- The next container stands at the position of the next slot. -/
lemma Invariant.getElem?_of_queue (h : ctx.Invariant earlier containers s) {rest : List Container}
    (hqueue : s.queue = c :: rest) : containers[s.slots.length]? = some c := by
  rw [← h.containers_eq, hqueue, List.getElem?_append_right (by simp)]
  simp

/-- A step changes the store as the completions call for that it brings. -/
lemma changesIn_step (hinv : ctx.Invariant earlier containers s)
    (h : changesIn s.trace = (ctx.completions containers s.trace).filterMap (·.change?))
    (hstep : ctx.Step earlier s s') :
    changesIn s'.trace = (ctx.completions containers s'.trace).filterMap (·.change?) := by
  have hturn : ∀ {j : Nat} {d : Container} {t : Turn} {time : Nat} {spans : List Log.Span},
      containers[j]? = some d → ctx.ChangesMatch d t.events →
        changesIn (s.trace ++ t.moments time j spans) =
          (ctx.completions containers (s.trace ++ t.moments time j spans)).filterMap (·.change?) := by
    intro j d t time spans hd hmatch
    rw [changesIn_append, completions_append, List.filterMap_append, h, changesIn_moments,
      completions_moments hd, hmatch]
  rcases hstep.cases_turn with ⟨time, rfl⟩ | ⟨d, rest, hqueue, rfl⟩ |
    ⟨time, j, slot, check, t, hslot, -, ht, rfl⟩
  · have hpod : ctx.completions containers [(⟨time, none, s.entered, .cancelled⟩ : Moment)] = [] :=
      completions_of_position_eq_none (by simp)
    have hnone : changesIn [(⟨time, none, s.entered, .cancelled⟩ : Moment)] = [] := rfl
    have htrace : changesIn (s.trace ++ [(⟨time, none, s.entered, .cancelled⟩ : Moment)]) =
        (ctx.completions containers (s.trace ++ [(⟨time, none, s.entered, .cancelled⟩ : Moment)])).filterMap
          (·.change?) := by
      rw [changesIn_append, completions_append, hnone, hpod, List.append_nil, List.append_nil, h]
    exact htrace
  · exact hturn (hinv.getElem?_of_queue hqueue) (account_start _ _ _ d).changesMatch
  · exact hturn (hinv.getElem?_of_slot hslot) ht.checkTurn.changesMatch

/-- The course on a pod starts without changes and without completions. -/
lemma changesIn_start (t : Task) :
    changesIn t.start.trace = (ctx.completions t.pod.containers t.start.trace).filterMap (·.change?) := by
  rw [completions_of_position_eq_none fun m hm => (position_of_mem_trace_start hm).1]
  refine List.filterMap_eq_nil_iff.2 fun m hm => ?_
  rcases (position_of_mem_trace_start hm).2 with he | he <;> rw [he] <;> rfl

/-- At every point of the course the changes of the store are those that the completions call for. -/
theorem changesIn_steps (earlier : String → Nat) (t : Task) (n : Nat) :
    changesIn (ctx.steps earlier n t.start).trace =
      (ctx.completions t.pod.containers (ctx.steps earlier n t.start).trace).filterMap (·.change?) :=
  (steps_invariant
    (P := fun s => ctx.Invariant earlier t.pod.containers s ∧
      changesIn s.trace = (ctx.completions t.pod.containers s.trace).filterMap (·.change?))
    ⟨invariant_start t, changesIn_start t⟩
    (fun h hstep => ⟨h.1.step hstep, changesIn_step h.1 h.2 hstep⟩) n).2

/-- One more step brings some completions, and changes the store as they call for. -/
theorem exists_completions_step (earlier : String → Nat) (t : Task) (n : Nat) :
    ∃ new, ctx.completions t.pod.containers (ctx.steps earlier (n + 1) t.start).trace =
        ctx.completions t.pod.containers (ctx.steps earlier n t.start).trace ++ new ∧
      changesIn (ctx.steps earlier (n + 1) t.start).trace =
        changesIn (ctx.steps earlier n t.start).trace ++ new.filterMap (·.change?) := by
  obtain ⟨ms, htrace⟩ := ctx.trace_steps_succ earlier n t.start
  have hnew : ctx.completions t.pod.containers (ctx.steps earlier (n + 1) t.start).trace =
      ctx.completions t.pod.containers (ctx.steps earlier n t.start).trace ++
        ctx.completions t.pod.containers ms := by
    rw [htrace, completions_append]
  refine ⟨_, hnew, ?_⟩
  rw [changesIn_steps, hnew, List.filterMap_append, ← changesIn_steps]

/-! ## The completions in a report -/

/-- What happens at the position of a container brings that container to its endings. -/
lemma completions_momentsAt (hc : containers[i]? = some c) (trace : List Moment) :
    ctx.completions containers (momentsAt trace i) =
      ((eventsAt trace i).filterMap (ctx.endingBy? c)).map (Completion.mk (ctx.key c)) := by
  unfold completions eventsAt
  rw [List.filterMap_map, List.map_filterMap]
  refine List.filterMap_congr fun m hm => ?_
  have hposition : m.position = some i := by simpa using (List.mem_filter.1 hm).2
  simp [completion?, hposition, hc]

/-- A container that has come to an ending has come to no other. -/
lemma Concluded.completions_momentsAt {trace : List Moment} {e : Ending}
    (h : ctx.Concluded earlier trace i c e) (hc : containers[i]? = some c) :
    ctx.completions containers (momentsAt trace i) = [⟨ctx.key c, e⟩] := by
  obtain ⟨begun, time, hstory⟩ := h
  have hending : (eventsAt trace i).filterMap (ctx.endingBy? c) = [e] :=
    hstory.account.filterMap_endingBy?
  rw [Context.completions_momentsAt hc, hending]
  rfl

/-- The notes in the report complete no container. -/
lemma completions_report (pod : PodId) (s : State) :
    ctx.completions containers (s.report pod).trace = ctx.completions containers s.trace :=
  filterMap_report (fun m hposition _ => by simp [completion?, hposition]) pod s

/-- The notes in the report do not change the store. -/
lemma changesIn_report (pod : PodId) (s : State) : changesIn (s.report pod).trace = changesIn s.trace := by
  refine filterMap_report (fun m _ hnote => ?_) pod s
  cases he : m.event <;> simp [he, Event.isNote, Event.change?] at hnote ⊢

/-- The changes in a report are those that its completions call for. -/
theorem changesIn_eq_completions (setup : Setup) (earlier : String → Nat) (t : Task) :
    changesIn (setup.report earlier t).trace =
      ((setup.context t.pod).completions t.pod.containers (setup.report earlier t).trace).filterMap
        (·.change?) := by
  rw [report_eq, changesIn_report, completions_report]
  exact changesIn_steps earlier t _

/-- A container that has come to an ending has changed the store as the ending calls for. -/
lemma Concluded.changesIn_momentsAt {trace : List Moment} {e : Ending}
    (h : ctx.Concluded earlier trace i c e) :
    changesIn (momentsAt trace i) = (Completion.change? ⟨ctx.key c, e⟩).toList := by
  obtain ⟨begun, time, hstory⟩ := h
  have hevents : changesIn (momentsAt trace i) = (eventsAt trace i).filterMap (·.change?) := by
    unfold changesIn eventsAt
    rw [List.filterMap_map]
    rfl
  have haccount : ctx.Account c (eventsAt trace i) (.ended time e) := hstory.account
  have hmatch : ctx.ChangesMatch c (eventsAt trace i) := haccount.changesMatch
  unfold ChangesMatch at hmatch
  rw [hevents, hmatch, haccount.filterMap_endingBy?]
  cases e <;> rfl

end Context

end Freshness.Sync
