import FunctionIndex.Registry

/-!
# Fan-out

Every registered backend works on its batch at the same time as the others and reports once.  The
receiver takes reports as they arrive until it has one of each; if the deadline passes first, the
run fails and names the backends still pending.

* `FanOut.receive` is the receiver: a function of the events it meets, in order.
* `FanOut.events` are the events when the time each backend takes is known.
* `FanOut.Step` lets the events happen in any order: backends post reports at any time, the
  deadline may pass at any time, and the receiver looks at it only when no report waits.
-/

namespace FunctionIndex

/-- What a backend reports. -/
abbrev Report := Except ScanError (List Record)

namespace FanOut

/-! ### The receiver -/

/-- What the receiver meets. -/
inductive Event where
  /-- The report of a backend. -/
  | report (l : Language) (r : Report)
  /-- The deadline has passed and no report waits. -/
  | expiry

/-- Backends that have not reported, in tag order. -/
def pending (registered : List Language) (got : ByLanguage Report) : List Language :=
  registered.filter fun l => (got.get? l).isNone

/-- Takes events until each registered backend has reported.  If no more can come, what has been
received is all there is. -/
def receive (registered : List Language) (limit : Duration) (got : ByLanguage Report) :
    List Event → Except ScanError (ByLanguage Report)
  | [] => .ok got
  | e :: es =>
    if got.size < registered.length then
      match e with
      | .report l r => receive registered limit (got.insert l r) es
      | .expiry => .error (.timeout (pending registered got) limit)
    else .ok got

/-! ### Known delays -/

/-- The batch of a language; one without files if none was routed. -/
def batchOf (batches : ByLanguage Batch) (l : Language) : Batch :=
  (batches.get? l).getD (Batch.new l)

/-- The report a backend makes of its batch. -/
def reportOf (h : Host) (batches : ByLanguage Batch) (l : Language) (b : Backend) : Report :=
  (b.parse h (batchOf batches l)).report

/-- Whether a backend reports before the deadline. -/
def inTime (limit : Option Duration) (b : Backend) : Bool :=
  match limit with
  | some t => b.delay.nanos ≤ t.nanos
  | none => true

/-- The events when backends report in tag order, and the deadline passes before those that take
longer. -/
def events (r : Registry) (h : Host) (limit : Option Duration) (batches : ByLanguage Batch) :
    List Event :=
  let punctual := r.toList.filter fun e => inTime limit e.2
  punctual.map (fun e => .report e.1 (reportOf h batches e.1 e.2)) ++
    (if punctual.length < r.size then [.expiry] else [])

/-- Greatest number of seconds a clock can show. -/
def maxClock : Nat := 0x7FFFFFFFFFFFFFFF

/-- Whether a deadline can be set on the clock of the host. -/
def deadlineFits (h : Host) (limit : Option Duration) : Bool :=
  match limit with
  | some t => h.clock + t.seconds ≤ maxClock
  | none => true

/-- What comes of a fan-out whose receiver returns `received`: a deadline that cannot be set is a
crash, whatever the backends report. -/
def underDeadline (h : Host) (limit : Option Duration)
    (received : Except ScanError (ByLanguage Report)) : Outcome (ByLanguage Report) :=
  if deadlineFits h limit then .ofExcept received
  else .crash (some "overflow when adding duration to instant")

/-- The reports of all registered backends. -/
def run (r : Registry) (h : Host) (limit : Option Duration) (batches : ByLanguage Batch) :
    Outcome (ByLanguage Report) :=
  underDeadline h limit
    (receive r.languages (limit.getD ⟨0⟩) .empty (events r h limit batches))

/-! ### Any order of events -/

/-- The state of a fan-out. -/
structure State where
  /-- Backends still at work. -/
  working : List Language
  /-- Reports that wait for the receiver, the oldest first. -/
  queue : List (Language × Report)
  /-- Reports that have been received. -/
  got : ByLanguage Report
  /-- Whether the deadline has passed. -/
  expired : Bool
  /-- What the receiver has returned, once it has. -/
  result : Option (Except ScanError (ByLanguage Report))

/-- The state before any report. -/
def State.init (registered : List Language) : State := ⟨registered, [], .empty, false, none⟩

/-- One step of a fan-out, with what the receiver meets in it, if anything; `outcome` is what each
backend will report. -/
inductive Step (registered : List Language) (limit : Option Duration)
    (outcome : Language → Report) : State → Option Event → State → Prop where
  /-- A backend finishes and posts its report. -/
  | post (s : State) (l : Language) (before after : List Language)
      (h : s.working = before ++ l :: after) :
      Step registered limit outcome s none
        { s with working := before ++ after, queue := s.queue ++ [(l, outcome l)] }
  /-- The deadline passes. -/
  | expire (s : State) (t : Duration) (h : limit = some t) (he : s.expired = false) :
      Step registered limit outcome s none { s with expired := true }
  /-- The receiver takes the oldest report. -/
  | take (s : State) (l : Language) (r : Report) (rest : List (Language × Report))
      (hr : s.result = none) (hs : s.got.size < registered.length) (hq : s.queue = (l, r) :: rest) :
      Step registered limit outcome s (some (.report l r))
        { s with queue := rest, got := s.got.insert l r }
  /-- The receiver finds no report and sees that the deadline has passed. -/
  | giveUp (s : State) (t : Duration) (h : limit = some t) (hr : s.result = none)
      (hs : s.got.size < registered.length) (hq : s.queue = []) (he : s.expired = true) :
      Step registered limit outcome s (some .expiry)
        { s with result := some (.error (.timeout (pending registered s.got) t)) }
  /-- The receiver finds that no report can come any more. -/
  | disconnect (s : State) (hr : s.result = none) (hs : s.got.size < registered.length)
      (hq : s.queue = []) (hw : s.working = []) :
      Step registered limit outcome s none { s with result := some (.ok s.got) }
  /-- The receiver has a report of each backend. -/
  | finish (s : State) (hr : s.result = none) (hs : registered.length ≤ s.got.size) :
      Step registered limit outcome s none { s with result := some (.ok s.got) }

end FanOut

end FunctionIndex
