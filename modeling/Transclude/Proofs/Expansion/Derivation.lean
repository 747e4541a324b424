import Transclude.Expansion.Basic

/-!
# Derivations of expansions

What an expansion comes to is told here by rules, apart from how errors are annotated on their way
out: nodes are expanded completely, or the expansion stops at a call, within the calls that were
being expanded at that moment. An expansion with some room follows exactly one of these rules, and
more room changes nothing unless it was the room that ran out. Nor does it if more calls can be
carried out, unless the expansion stopped at one of these.

## Main definitions

* `Stop` — why an expansion stops at a call
* `Expander.Completes` — nodes are expanded completely
* `Expander.StopsAt` — the expansion of nodes stops at a call
* `Expander.initialRoom`, `Expander.exhaustion` — what a limit makes of an expansion
* `Expander.Extends` — an expander carries out all calls that another one does

## Main results

* `Expander.Completes.expandNodes_eq`, `Expander.StopsAt.expandNodes_eq` — expansion follows the
  rules; an error escapes from the call it stops at and from all those around it
* `Expander.completes_or_stopsAt`, `Expander.expand_cases` — some rule always applies
* `Expander.StopsAt.expand_of_fault` — a fault is reported at the call that it arises at
* `Expander.Completes.of_extends`, `Expander.StopsAt.of_extends` — what becomes of an expansion with
  more room and an expander that carries out more
* `Expander.Completes.mono`, `Expander.StopsAt.mono`, `Expander.expandNodes_eq_of_not_exhausted` —
  more room changes nothing, if it did not run out
* `Expander.StopsAt.events_isPrefix`, `Expander.StopsAt.events_isPrefix_of_extends` — what was done
  before an expansion stopped is done first
* `Expander.StopsAt.exists_outermost` — an expansion stops within the first node that it stops for
-/

namespace Transclude

/-- Why an expansion stops at a call. -/
inductive Stop
  /-- No room is left for the call. -/
  | exhausted
  /-- No document is produced for the call. -/
  | failed (failure : Failure CompilationError)

/-- The failure that a stop arises with, when it is `exhausted` that tells that no room is left. -/
def Stop.failure (exhausted : Failure CompilationError) : Stop → Failure CompilationError
  | .exhausted => exhausted
  | .failed failure => failure

namespace Expander

/-- Nodes are expanded completely, into the passages and with the record. -/
inductive Completes (e : Expander) : (room : Nat) → List Node → List Event → List Passage → Prop
  | nil {room} : e.Completes room [] [] []
  | text {room t rest events passages} (hrest : e.Completes room rest events passages) :
      e.Completes room (.text t :: rest) events (t :: passages)
  | call {room c rest events produced inner passages others following}
      (hdispatch : e.dispatch c = ⟨events, .ok produced⟩)
      (hinner : e.Completes room produced.nodes inner passages)
      (hrest : e.Completes (room + 1) rest others following) :
      e.Completes (room + 1) (.call c :: rest) (events ++ inner ++ others) (passages ++ following)

/-- The expansion of nodes stops at the call `d`. The calls `around` are then being expanded,
outermost first: the first one stands among the nodes, and every other one, and `d`, in what is
produced for the one before it. All that stands in front of these calls has been expanded. -/
inductive StopsAt (e : Expander) :
    (room : Nat) → List Node → List Event → (around : List Call) → (d : Call) → Stop → Prop
  | exhausted {d rest} : e.StopsAt 0 (.call d :: rest) [] [] d .exhausted
  | failed {room d rest events failure} (hdispatch : e.dispatch d = ⟨events, .error failure⟩) :
      e.StopsAt (room + 1) (.call d :: rest) events [] d (.failed failure)
  | within {room c rest events produced inner around d stop}
      (hdispatch : e.dispatch c = ⟨events, .ok produced⟩)
      (hinner : e.StopsAt room produced.nodes inner around d stop) :
      e.StopsAt (room + 1) (.call c :: rest) (events ++ inner) (c :: around) d stop
  | behindText {room t rest events around d stop}
      (hrest : e.StopsAt room rest events around d stop) :
      e.StopsAt room (.text t :: rest) events around d stop
  | behindCall {room c rest events produced inner passages others around d stop}
      (hdispatch : e.dispatch c = ⟨events, .ok produced⟩)
      (hinner : e.Completes room produced.nodes inner passages)
      (hrest : e.StopsAt (room + 1) rest others around d stop) :
      e.StopsAt (room + 1) (.call c :: rest) (events ++ inner ++ others) around d stop

/-- The room that the expansion of a document starts with. -/
def initialRoom (limit : Option Int) (capacity : Nat) : Nat :=
  match limit with
  | none => capacity
  | some limit => if limit ≤ capacity then limit.toNat else capacity

/-- What the expansion of a document ends with when no room is left. -/
def exhaustion (limit : Option Int) (capacity : Nat) : Failure CompilationError :=
  match limit with
  | none => .aborted .endless
  | some limit =>
    if limit ≤ capacity then .reported (.ofFault (.depthExceeded limit)) else .aborted .endless

variable {e e' : Expander} {room more : Nat} {nodes rest : List Node}
variable {events inner : List Event} {passages : List Passage} {around : List Call} {c d : Call}
variable {stop : Stop} {produced : Document}
variable {exhausted exhausted' failure : Failure CompilationError}

theorem expand_eq_expandNodes (e : Expander) (limit : Option Int) (capacity : Nat) (d : Document) :
    e.expand limit capacity d =
      expandNodes (e.expandCall (exhaustion limit capacity) (initialRoom limit capacity))
        d.nodes := by
  cases limit with
  | none => rfl
  | some limit =>
    by_cases h : limit ≤ capacity <;> simp [expand, expandWithin, exhaustion, initialRoom, h]

/-- Fewer calls stand around a call that there is room for than the limit allows. -/
theorem lt_of_lt_initialRoom {limit : Option Int} {capacity n : Nat}
    (h : n < initialRoom limit capacity) : ∀ bound ∈ limit, (n : Int) < bound := by
  rintro bound rfl
  simp only [initialRoom] at h
  split at h <;> omega

theorem expandCall_of_completed (hdispatch : e.dispatch c = ⟨events, .ok produced⟩)
    (hinner : expandNodes (e.expandCall exhausted room) produced.nodes = ⟨inner, .ok passages⟩) :
    e.expandCall exhausted (room + 1) c = ⟨events ++ inner, .ok passages⟩ := by
  simp [expandCall, hdispatch, hinner]

theorem expandCall_of_stopped (hdispatch : e.dispatch c = ⟨events, .ok produced⟩)
    (hinner : expandNodes (e.expandCall exhausted room) produced.nodes = ⟨inner, .error failure⟩) :
    e.expandCall exhausted (room + 1) c =
      ⟨events ++ inner, .error (failure.map (·.escapeFrom c))⟩ := by
  simp [expandCall, hdispatch, hinner]

/-- Nodes that the rules complete are expanded accordingly, whatever is said of missing room. -/
theorem Completes.expandNodes_eq (h : e.Completes room nodes events passages) :
    expandNodes (e.expandCall exhausted room) nodes = ⟨events, .ok passages⟩ := by
  induction h with
  | nil => rfl
  | text _ ih => simp [expandNodes, ih]
  | call hdispatch _ _ ihinner ihrest =>
    simp [expandNodes, expandCall_of_completed hdispatch ihinner, ihrest]

/-- Where the rules stop, expansion fails, and an error has escaped from all calls around. -/
theorem StopsAt.expandNodes_eq (h : e.StopsAt room nodes events around d stop) :
    expandNodes (e.expandCall exhausted room) nodes =
      ⟨events, .error ((stop.failure exhausted).map
        ((around ++ [d]).foldr CompilationError.escapeFrom))⟩ := by
  induction h with
  | exhausted => rfl
  | failed hdispatch => simp [expandNodes, expandCall, hdispatch, Stop.failure]
  | within hdispatch _ ih =>
    simp [expandNodes, expandCall_of_stopped hdispatch ih, Failure.map_map, Function.comp_def]
  | behindText _ ih => simp [expandNodes, ih]
  | behindCall hdispatch hinner _ ih =>
    simp [expandNodes, expandCall_of_completed hdispatch hinner.expandNodes_eq, ih]

/-- What is completed does not stop anywhere. -/
theorem Completes.not_stopsAt (h : e.Completes room nodes events passages) :
    ¬ e.StopsAt room nodes inner around d stop := by
  intro hstops
  have heq : expandNodes (e.expandCall (.aborted .endless) room) nodes = _ := h.expandNodes_eq
  rw [hstops.expandNodes_eq] at heq
  cases heq

/-- Nodes are completed, or their expansion stops at a call. -/
theorem completes_or_stopsAt (e : Expander) (room : Nat) (nodes : List Node) :
    (∃ events passages, e.Completes room nodes events passages) ∨
      ∃ events around d stop, e.StopsAt room nodes events around d stop := by
  -- What a call produces has less room; what stands behind the call has as much, but is shorter.
  induction room generalizing nodes with
  | zero =>
    induction nodes with
    | nil => exact .inl ⟨_, _, .nil⟩
    | cons node rest ih =>
      cases node with
      | call c => exact .inr ⟨_, _, _, _, .exhausted⟩
      | text t =>
        obtain ⟨_, _, h⟩ | ⟨_, _, _, _, h⟩ := ih
        · exact .inl ⟨_, _, .text h⟩
        · exact .inr ⟨_, _, _, _, .behindText h⟩
  | succ room ihroom =>
    induction nodes with
    | nil => exact .inl ⟨_, _, .nil⟩
    | cons node rest ih =>
      cases node with
      | text t =>
        obtain ⟨_, _, h⟩ | ⟨_, _, _, _, h⟩ := ih
        · exact .inl ⟨_, _, .text h⟩
        · exact .inr ⟨_, _, _, _, .behindText h⟩
      | call c =>
        rcases hdispatch : e.dispatch c with ⟨events, failure | produced⟩
        · exact .inr ⟨_, _, _, _, .failed hdispatch⟩
        obtain ⟨_, _, hinner⟩ | ⟨_, _, _, _, hinner⟩ := ihroom produced.nodes
        · obtain ⟨_, _, h⟩ | ⟨_, _, _, _, h⟩ := ih
          · exact .inl ⟨_, _, .call hdispatch hinner h⟩
          · exact .inr ⟨_, _, _, _, .behindCall hdispatch hinner h⟩
        · exact .inr ⟨_, _, _, _, .within hdispatch hinner⟩

/-- The expansion of a document is completed, or it stops at a call. -/
theorem expand_cases (e : Expander) (limit : Option Int) (capacity : Nat) (d : Document) :
    (∃ events passages, e.Completes (initialRoom limit capacity) d.nodes events passages ∧
      e.expand limit capacity d = ⟨events, .ok passages⟩) ∨
      ∃ events around c stop,
        e.StopsAt (initialRoom limit capacity) d.nodes events around c stop ∧
        e.expand limit capacity d =
          ⟨events, .error ((stop.failure (exhaustion limit capacity)).map
            ((around ++ [c]).foldr CompilationError.escapeFrom))⟩ := by
  rw [expand_eq_expandNodes]
  obtain ⟨events, passages, hcompletes⟩ | ⟨events, around, c, stop, hstops⟩ :=
    e.completes_or_stopsAt (initialRoom limit capacity) d.nodes
  · exact .inl ⟨events, passages, hcompletes, hcompletes.expandNodes_eq⟩
  · exact .inr ⟨events, around, c, stop, hstops, hstops.expandNodes_eq⟩

/-- A fault that arises at a call is located there, and the calls around are recorded. -/
theorem StopsAt.expand_of_fault {limit : Option Int} {capacity : Nat} {document : Document}
    {fault : Fault} (h : e.StopsAt (initialRoom limit capacity) document.nodes events around d
      (.failed (.reported (.ofFault fault)))) :
    e.expand limit capacity document =
      ⟨events, .error (.reported (.simple fault
        ⟨some ⟨d.origin, d.span, ""⟩, around.reverse⟩))⟩ := by
  rw [expand_eq_expandNodes, h.expandNodes_eq, Stop.failure, Failure.map_reported,
    CompilationError.foldr_escapeFrom_of_unlocated rfl]
  rfl

/-- What is expanded without a failure is completed. -/
theorem completes_of_expandNodes_eq_ok
    (h : (expandNodes (e.expandCall exhausted room) nodes).result = .ok passages) :
    ∃ events, e.Completes room nodes events passages := by
  obtain ⟨events, passages', hcompletes⟩ | ⟨_, _, _, _, hstops⟩ := e.completes_or_stopsAt room nodes
  · rw [hcompletes.expandNodes_eq] at h
    cases h
    exact ⟨events, hcompletes⟩
  · rw [hstops.expandNodes_eq] at h
    cases h

/-- A failure is that of the call which the expansion stops at. -/
theorem StopsAt.dispatch_eq (h : e.StopsAt room nodes events around d (.failed failure)) :
    (e.dispatch d).result = .error failure := by
  generalize hstop : Stop.failed failure = stop at h
  induction h with
  | exhausted => cases hstop
  | failed hdispatch =>
    cases hstop
    rw [hdispatch]
  | within _ _ ih => exact ih hstop
  | behindText _ ih => exact ih hstop
  | behindCall _ _ _ ih => exact ih hstop

/-- The second expander carries out, in the same way, every call that the first one does, and of any
other call it records first what the first one does. -/
structure Extends (e e' : Expander) : Prop where
  dispatch_eq {c : Call} {produced : Document} (h : (e.dispatch c).result = .ok produced) :
    e'.dispatch c = e.dispatch c
  events_isPrefix (c : Call) : (e.dispatch c).events <+: (e'.dispatch c).events

theorem Extends.refl (e : Expander) : e.Extends e :=
  ⟨fun _ => rfl, fun _ => List.prefix_rfl⟩

theorem Extends.dispatch_of (h : e.Extends e') (hdispatch : e.dispatch c = ⟨events, .ok produced⟩) :
    e'.dispatch c = ⟨events, .ok produced⟩ :=
  (h.dispatch_eq (congrArg Run.result hdispatch)).trans hdispatch

/-- What is completed is completed in the same way with more room, and by an expander that carries
out more. -/
theorem Completes.of_extends (h : e.Completes room nodes events passages) (hextends : e.Extends e')
    (hmore : room ≤ more) : e'.Completes more nodes events passages := by
  induction h generalizing more with
  | nil => exact .nil
  | text _ ih => exact .text (ih hmore)
  | call hdispatch _ _ ihinner ihrest =>
    -- There is room for the call, so there is with more.
    obtain _ | more := more
    · omega
    exact .call (hextends.dispatch_of hdispatch) (ihinner (by omega)) (ihrest hmore)

/-- What is completed with some room is completed with more in the same way. -/
theorem Completes.mono (h : e.Completes room nodes events passages) (hmore : room ≤ more) :
    e.Completes more nodes events passages :=
  h.of_extends (.refl e) hmore

/-- An expansion that stops where no room is left, or at a call that fails, stops there in the same
way with no more room, or if the call fails with an expander that carries out more. -/
theorem StopsAt.of_extends (h : e.StopsAt room nodes events around d stop)
    (hextends : e.Extends e') (hmore : room ≤ more) (hroom : stop = .exhausted → more = room)
    (hd : ∀ failure, stop = .failed failure → e'.dispatch d = e.dispatch d) :
    e'.StopsAt more nodes events around d stop := by
  induction h generalizing more with
  | exhausted =>
    rw [hroom rfl]
    exact .exhausted
  | behindText _ ih => exact .behindText (ih hmore hroom hd)
  | failed hdispatch =>
    obtain _ | more := more
    · omega
    exact .failed ((hd _ rfl).trans hdispatch)
  | within hdispatch _ ih =>
    obtain _ | more := more
    · omega
    refine .within (hextends.dispatch_of hdispatch) (ih (by omega) ?_ hd)
    intro hstop
    exact Nat.succ.inj (hroom hstop)
  | behindCall hdispatch hinner _ ih =>
    obtain _ | more := more
    · omega
    exact .behindCall (hextends.dispatch_of hdispatch) (hinner.of_extends hextends (by omega))
      (ih hmore hroom hd)

/-- A failure that is met with some room is met with more in the same way. -/
theorem StopsAt.mono (h : e.StopsAt room nodes events around d (.failed failure))
    (hmore : room ≤ more) : e.StopsAt more nodes events around d (.failed failure) :=
  h.of_extends (.refl e) hmore nofun fun _ _ => rfl

/-- Without the room running out, more room changes nothing. -/
theorem expandNodes_eq_of_not_exhausted
    (h : ¬ ∃ events around d, e.StopsAt room nodes events around d .exhausted)
    (hmore : room ≤ more) :
    expandNodes (e.expandCall exhausted more) nodes =
      expandNodes (e.expandCall exhausted' room) nodes := by
  obtain ⟨_, _, hcompletes⟩ | ⟨events, around, d, stop, hstops⟩ := e.completes_or_stopsAt room nodes
  · rw [hcompletes.expandNodes_eq, (hcompletes.mono hmore).expandNodes_eq]
  · cases stop with
    | exhausted => exact absurd ⟨events, around, d, hstops⟩ h
    | failed failure =>
      rw [hstops.expandNodes_eq, (hstops.mono hmore).expandNodes_eq]
      rfl

theorem expandCall_events_of_dispatch (hdispatch : e.dispatch c = ⟨events, .ok produced⟩) :
    (e.expandCall exhausted (room + 1) c).events =
      events ++ (expandNodes (e.expandCall exhausted room) produced.nodes).events := by
  simp [expandCall, hdispatch, Run.mapError]

theorem dispatch_events_isPrefix :
    (e.dispatch c).events <+: (e.expandCall exhausted (room + 1) c).events :=
  Run.events_isPrefix_bind ..

/-- What has been done where an expansion stops is also done first with more room, and by an
expander that carries out more. -/
theorem StopsAt.events_isPrefix_of_extends (h : e.StopsAt room nodes events around d stop)
    (hextends : e.Extends e') (hmore : room ≤ more) :
    events <+: (expandNodes (e'.expandCall exhausted more) nodes).events := by
  induction h generalizing more with
  | exhausted => exact List.nil_prefix
  | @failed _ d _ _ _ hdispatch =>
    obtain _ | more := more
    · omega
    have hstart := hextends.events_isPrefix d
    rw [hdispatch] at hstart
    exact (hstart.trans dispatch_events_isPrefix).trans (Run.events_isPrefix_bind ..)
  | within hdispatch _ ih =>
    obtain _ | more := more
    · omega
    -- With more room the call may be completed, and nodes behind it reached.
    refine .trans ?_ (Run.events_isPrefix_bind ..)
    rw [expandCall_events_of_dispatch (hextends.dispatch_of hdispatch),
      List.prefix_append_right_inj]
    exact ih (by omega)
  | behindText _ ih =>
    exact (ih hmore).trans (Run.events_isPrefix_bind ..)
  | behindCall hdispatch hinner _ ih =>
    obtain _ | more := more
    · omega
    have hinner' := hinner.of_extends hextends (Nat.le_of_succ_le_succ hmore)
    rw [expandNodes, expandCall_of_completed (hextends.dispatch_of hdispatch)
      hinner'.expandNodes_eq, Run.mk_ok_bind, List.prefix_append_right_inj]
    exact (ih hmore).trans (Run.events_isPrefix_bind ..)

/-- What has been done where an expansion stops is also done first with more room. -/
theorem StopsAt.events_isPrefix (h : e.StopsAt room nodes events around d stop)
    (hmore : room ≤ more) :
    events <+: (expandNodes (e.expandCall exhausted more) nodes).events :=
  h.events_isPrefix_of_extends (.refl e) hmore

/-- What is completed among others is completed by itself. -/
theorem Completes.of_mem (h : e.Completes room nodes events passages) (hmem : .call c ∈ nodes) :
    ∃ events passages, e.Completes room [.call c] events passages := by
  induction h with
  | nil => cases hmem
  | text _ ih => exact ih (by simpa using hmem)
  | call hdispatch hinner _ _ ih =>
    rcases List.mem_cons.mp hmem with heq | hmem
    · obtain rfl := Node.call.inj heq
      exact ⟨_, _, .call hdispatch hinner .nil⟩
    · exact ih hmem

/-- Among the nodes there is a first call whose expansion stops: what stands in front of it is
completed, and the call is the outermost one that is being expanded. -/
theorem StopsAt.exists_outermost (h : e.StopsAt room nodes events around d stop) :
    ∃ front c behind, nodes = front ++ .call c :: behind ∧
      (∃ events passages, e.Completes room front events passages) ∧
      (∃ events, e.StopsAt room [.call c] events around d stop) ∧
      (around ++ [d]).head? = some c := by
  induction h with
  | exhausted => exact ⟨[], _, _, rfl, ⟨_, _, .nil⟩, ⟨_, .exhausted⟩, rfl⟩
  | failed hdispatch => exact ⟨[], _, _, rfl, ⟨_, _, .nil⟩, ⟨_, .failed hdispatch⟩, rfl⟩
  | within hdispatch hinner _ =>
    exact ⟨[], _, _, rfl, ⟨_, _, .nil⟩, ⟨_, .within hdispatch hinner⟩, rfl⟩
  | behindText _ ih =>
    obtain ⟨front, c, behind, rfl, ⟨_, _, hfront⟩, hstops, hhead⟩ := ih
    exact ⟨_ :: front, c, behind, rfl, ⟨_, _, .text hfront⟩, hstops, hhead⟩
  | behindCall hdispatch hinner _ ih =>
    obtain ⟨front, c, behind, rfl, ⟨_, _, hfront⟩, hstops, hhead⟩ := ih
    exact ⟨_ :: front, c, behind, rfl, ⟨_, _, .call hdispatch hinner hfront⟩, hstops, hhead⟩

end Expander

end Transclude
