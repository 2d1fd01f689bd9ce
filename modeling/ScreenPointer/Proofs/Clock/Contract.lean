/-
# One contract for both clocks

A manual clock and a paced clock keep different things and move in different ways, but
what either answers, as long as it works, depends on two things only: which number was
given last and who is registered.  Both have this registry, both answer from it, and
every request changes it alike.  Nothing else does: time, deliveries and what waits for
them are not looked at, and a listener that wants to be told more stays.

So whatever is found out with a manual clock about the answers to a sequence of requests
is true of a paced one.
-/

import ScreenPointer.Clock.Paced
import ScreenPointer.Proofs.Clock.Attended

namespace ScreenPointer

structure Exchange where
  request : ClockRequest
  answer : ClockAnswer
  deriving DecidableEq, Repr

/-! ## The registry -/

/-- What the answers of a working clock depend on: who is registered, and how many listeners there
were so far.  Neither time nor anything that is waited for matters. -/
structure Registry where
  lastId : Nat := 0
  listeners : List ListenerId := []

namespace Registry

def answer (r : Registry) : ClockRequest → ClockAnswer
  | .register => .registered ⟨r.lastId + 1⟩
  | .tick id | .schedule id _ _ =>
    if id ∈ r.listeners then .accepted else .refused (.unknownListener id)
  | .unregister _ | .cancel .. => .accepted

def after (r : Registry) : ClockRequest → Registry
  | .register => ⟨r.lastId + 1, r.listeners ++ [⟨r.lastId + 1⟩]⟩
  | .unregister id => { r with listeners := r.listeners.filter (· ≠ id) }
  | .tick _ | .schedule .. | .cancel .. => r

def exchanges (r : Registry) : List ClockRequest → List Exchange
  | [] => []
  | request :: rest => ⟨request, r.answer request⟩ :: (r.after request).exchanges rest

variable {r : Registry} {requests : List ClockRequest} {request : ClockRequest}

theorem exchanges_concat :
    r.exchanges (requests ++ [request]) =
      r.exchanges requests ++ [⟨request, (requests.foldl after r).answer request⟩] := by
  induction requests generalizing r with
  | nil => rfl
  | cons first rest ih => exact congrArg _ ih

/-- Later requests do not change earlier answers. -/
theorem exchanges_take (n : Nat) : (r.exchanges requests).take n = r.exchanges (requests.take n) := by
  induction requests generalizing r n with
  | nil => simp [exchanges]
  | cons first rest ih =>
      cases n with
      | zero => rfl
      | succ n => exact congrArg _ (ih n)

end Registry

/-- The exchanges so far are those of a working clock, and the registry is what they have made
of it. -/
structure Contract (log : List Exchange) (r : Registry) : Prop where
  exchanges : log = Registry.exchanges {} (log.map (·.request))
  registry : r = (log.map (·.request)).foldl Registry.after {}

namespace Contract

variable {log log' : List Exchange} {r r' : Registry}

theorem fresh : Contract [] {} := ⟨rfl, rfl⟩

theorem ask (h : Contract log r) (request : ClockRequest) :
    Contract (log ++ [⟨request, r.answer request⟩]) (r.after request) := by
  have hrequests : (log ++ [Exchange.mk request (r.answer request)]).map (·.request) =
      log.map (·.request) ++ [request] := List.map_append
  constructor
  · rw [hrequests, Registry.exchanges_concat, ← h.exchanges, ← h.registry]
  · rw [hrequests, List.foldl_concat, ← h.registry]

/-- Of two clocks that keep the contract, the answers differ nowhere before the requests do. -/
theorem agree (h : Contract log r) (h' : Contract log' r') {n : Nat}
    (hrequests : (log.take n).map (·.request) = (log'.take n).map (·.request)) :
    log.take n = log'.take n := by
  rw [List.map_take, List.map_take] at hrequests
  calc log.take n = Registry.exchanges {} ((log.map (·.request)).take n) := by
        rw [← Registry.exchanges_take, ← h.exchanges]
    _ = Registry.exchanges {} ((log'.map (·.request)).take n) := by rw [hrequests]
    _ = log'.take n := by rw [← Registry.exchanges_take, ← h'.exchanges]

end Contract

/-! ## The manual clock -/

namespace ManualClock

def registry (c : ManualClock) : Registry := ⟨c.lastId, c.listeners⟩

/-- A connected clock works. -/
theorem serve_of_connected {c : ManualClock} (h : c.connected = true) (request : ClockRequest) :
    (c.serve request).1 = c.registry.answer request ∧
      (c.serve request).2.registry = c.registry.after request ∧
      (c.serve request).2.connected = true := by
  cases request with
  | register =>
      rw [serve_register, if_pos h]
      exact ⟨rfl, rfl, h⟩
  | unregister id => exact ⟨rfl, rfl, h⟩
  | tick id =>
      rw [serve_tick]
      by_cases hid : id ∈ c.listeners
      · rw [if_pos hid]
        exact ⟨(if_pos hid).symm, rfl, h⟩
      · rw [if_neg hid]
        exact ⟨(if_neg hid).symm, rfl, h⟩
  | schedule id token delay =>
      rw [serve_schedule]
      by_cases hid : id ∈ c.listeners
      · rw [if_pos hid]
        exact ⟨(if_pos hid).symm, rfl, h⟩
      · rw [if_neg hid]
        exact ⟨(if_neg hid).symm, rfl, h⟩
  | cancel id token => exact ⟨rfl, rfl, h⟩

end ManualClock

def Occurrence.exchange? : Occurrence → Option Exchange
  | asked request answer => some ⟨request, answer⟩
  | told .. | answered .. => none

/-- All that was asked, by the owner of the clock or by its listeners, and answered. -/
def Diary.exchanges (d : Diary) : List Exchange := d.filterMap (·.occurrence.exchange?)

/-- A connected clock that goes with what its diary says was asked of it. -/
structure ManualClock.Honours (c : ManualClock) (d : Diary) : Prop where
  connected : c.connected = true
  contract : Contract d.exchanges c.registry

namespace ManualClock.Honours

variable {c : ManualClock} {d : Diary}

theorem ask (h : c.Honours d) (request : ClockRequest) :
    (c.serve request).2.Honours (d ++ [⟨.asked request (c.serve request).1, (c.serve request).2⟩]) := by
  obtain ⟨hanswer, hregistry, hconnected⟩ := serve_of_connected h.connected request
  refine ⟨hconnected, ?_⟩
  rw [hanswer, hregistry, Diary.exchanges, List.filterMap_append]
  exact h.contract.ask request

/-- Nobody asks anything by being told something, or by answering. -/
theorem concat (h : c.Honours d) {e : DiaryEntry} (he : e.occurrence.exchange? = none) :
    c.Honours (d ++ [e]) := by
  refine ⟨h.connected, ?_⟩
  have hnews : Diary.exchanges (d ++ [e]) = d.exchanges := by simp [Diary.exchanges, he]
  rw [hnews]
  exact h.contract

end ManualClock.Honours

/-- A conduct that ends, whatever it sees, with wanting to hear more. -/
def Conduct.Stays {σ : Type} : Conduct σ → Prop
  | .answer status _ => status = .keep
  | .look next => ∀ now, (next now).Stays
  | .ask _ next => ∀ answer, (next answer).Stays

/-- A listener that stays leaves an honoured contract. -/
theorem Conduct.Stays.follow {σ : Type} {conduct : Conduct σ} (hstays : conduct.Stays)
    (own : ListenerId) {c : ManualClock} {d : Diary} (h : c.Honours d) :
    (conduct.follow own c d).1 = .keep ∧
      (conduct.follow own c d).2.1.Honours (conduct.follow own c d).2.2.2 := by
  induction conduct generalizing c d with
  | answer status s => exact ⟨hstays, h.concat rfl⟩
  | look next ih => exact ih c.now (hstays c.now) h
  | ask request next ih => exact ih _ (hstays _) (h.ask request)

def Conducts.Stay {σ : Type} (conduct : Conducts σ) : Prop :=
  ∀ id notice s, (conduct id notice s).Stays

theorem Attended.honours_law {σ : Type} {conduct : Conducts σ} (hstay : conduct.Stay) :
    Attended.Law conduct fun out => out.1.Honours out.2.2 where
  told notice id c p h := by
    obtain ⟨hkeep, hhonours⟩ :=
      (hstay id notice p.1).follow id (h.concat (e := ⟨.told id notice, c⟩) rfl)
    rw [ManualClock.tell_of_keep hkeep]
    exact hhonours
  asked _ _ _ request h := h.ask request
  moved _ _ _ _ _ h := ⟨h.connected, h.contract⟩
  cleared _ _ _ h := ⟨h.connected, h.contract⟩

/-! ## The paced clock -/

/-- Does whoever asks this expect to be told something later? -/
def ClockRequest.expects : ClockRequest → Bool
  | register | tick _ | schedule .. => true
  | unregister _ | cancel .. => false

namespace PacedClock

def registry (c : PacedClock) : Registry := ⟨c.lastId, c.listeners⟩

theorem refusal?_of_running {c : PacedClock} (h : c.running = true) (id : ListenerId) :
    c.refusal? id = if id ∈ c.listeners then none else some (.unknownListener id) := by
  by_cases hid : id ∈ c.listeners <;> simp [refusal?, isRegistered, h, hid]

/-- A running clock works. -/
theorem serve_of_running {c : PacedClock} (h : c.running = true) (request : ClockRequest) :
    (c.serve request).1 = c.registry.answer request ∧
      (c.serve request).2.registry = c.registry.after request ∧
      (c.serve request).2.running = true := by
  cases request with
  | register =>
      simp only [serve, if_pos h]
      exact ⟨rfl, rfl, h⟩
  | unregister id => exact ⟨rfl, rfl, h⟩
  | tick id =>
      simp only [serve, refusal?_of_running h]
      by_cases hid : id ∈ c.listeners
      · rw [if_pos hid]
        exact ⟨(if_pos hid).symm, rfl, h⟩
      · rw [if_neg hid]
        exact ⟨(if_neg hid).symm, rfl, h⟩
  | schedule id token delay =>
      simp only [serve, refusal?_of_running h]
      by_cases hid : id ∈ c.listeners
      · rw [if_pos hid]
        exact ⟨(if_pos hid).symm, rfl, h⟩
      · rw [if_neg hid]
        exact ⟨(if_neg hid).symm, rfl, h⟩
  | cancel id token => exact ⟨rfl, rfl, h⟩

/-- A stopped clock stays stopped and takes nothing on, whoever asks. -/
theorem serve_of_stopped {c : PacedClock} (h : c.running = false) (request : ClockRequest) :
    (c.serve request).2.running = false ∧
      (request.expects = true → (c.serve request).1 = .refused .stopped) := by
  cases request <;> simp [serve, forget, refusal?, ClockRequest.expects, h]

/-- A delivery leaves alone what answers depend on. -/
theorem deliverAt_registry (c : PacedClock) (instant : Nanos) :
    (c.deliverAt instant).2.registry = c.registry ∧
      (c.deliverAt instant).2.running = c.running := by
  unfold deliverAt
  cases c.vsyncDue with
  | none => exact ⟨rfl, rfl⟩
  | some due =>
      dsimp only
      split <;> exact ⟨rfl, rfl⟩

end PacedClock

/-- A paced clock and what was asked of it. -/
structure Consulted where
  clock : PacedClock
  exchanges : List Exchange

/-- What happens to a paced clock, each at once.  Its own thread, the listeners it tells and
everyone else who asks may come in any order. -/
inductive PacedMove
  | ask (request : ClockRequest)
  | pass (now : Nanos)
  /-- What is due at an instant is taken off the clock, to be told then.  To wake is to deliver
  at the instant when something is due next. -/
  | deliver (instant : Nanos)
  | answered (id : ListenerId) (status : ListenerStatus)
  | stop
  deriving DecidableEq, Repr

namespace Consulted

def start (hz : Nat) : Consulted := ⟨.start hz, []⟩

def make (a : Consulted) : PacedMove → Consulted
  | .ask request =>
    let (answer, clock) := a.clock.serve request
    ⟨clock, a.exchanges ++ [⟨request, answer⟩]⟩
  | .pass now => { a with clock.now := now }
  | .deliver instant => { a with clock := (a.clock.deliverAt instant).2 }
  | .answered _ .keep => a
  | .answered id .deregister => { a with clock := a.clock.forget id }
  | .stop => { a with clock := a.clock.stop }

def run (a : Consulted) (moves : List PacedMove) : Consulted := moves.foldl make a

/-- A running clock that goes with what was asked of it. -/
structure Honours (a : Consulted) : Prop where
  running : a.clock.running = true
  contract : Contract a.exchanges a.clock.registry

variable {a : Consulted}

theorem Honours.make (h : a.Honours) {move : PacedMove} (hstop : move ≠ .stop)
    (hstays : ∀ id, move ≠ .answered id .deregister) : (a.make move).Honours := by
  cases move with
  | ask request =>
      obtain ⟨hanswer, hregistry, hrunning⟩ := PacedClock.serve_of_running h.running request
      refine ⟨hrunning, ?_⟩
      simp only [Consulted.make, hanswer, hregistry]
      exact h.contract.ask request
  | pass now => exact ⟨h.running, h.contract⟩
  | deliver instant =>
      obtain ⟨hregistry, hrunning⟩ := a.clock.deliverAt_registry instant
      exact ⟨hrunning.trans h.running, hregistry.symm ▸ h.contract⟩
  | answered id status =>
      cases status with
      | keep => exact h
      | deregister => exact absurd rfl (hstays id)
  | stop => exact absurd rfl hstop

theorem Honours.run (h : a.Honours) {moves : List PacedMove} (hstop : .stop ∉ moves)
    (hstay : ∀ id, .answered id .deregister ∉ moves) : (a.run moves).Honours := by
  induction moves generalizing a with
  | nil => exact h
  | cons move rest ih =>
      refine ih (h.make ?_ fun id => ?_) (List.not_mem_of_not_mem_cons hstop) fun id =>
        List.not_mem_of_not_mem_cons (hstay id)
      · exact fun heq => hstop (heq ▸ List.mem_cons_self)
      · exact fun heq => hstay id (heq ▸ List.mem_cons_self)

theorem make_stopped (h : a.clock.running = false) (move : PacedMove) :
    (a.make move).clock.running = false := by
  cases move with
  | ask request => exact (PacedClock.serve_of_stopped h request).1
  | pass now => exact h
  | deliver instant => exact (a.clock.deliverAt_registry instant).2.trans h
  | answered id status => cases status <;> exact h
  | stop => rfl

theorem run_stopped (h : a.clock.running = false) (moves : List PacedMove) :
    (a.run moves).clock.running = false := by
  induction moves generalizing a with
  | nil => exact h
  | cons move rest ih => exact ih (make_stopped h move)

end Consulted

/-! ## The same answers -/

/-- A manual clock and a paced one, both new, whose listeners always want to hear more: as long
as the same requests are made of both, by whomever, both give the same answers, whatever either
delivers in between and when, and these are the answers of the registry.  And a paced clock that
was stopped, after whatever, refuses all that would have to be delivered, for known and unknown
listeners alike. -/
theorem clocks_answer_alike {σ : Type} {conduct : Conducts σ} (hstay : conduct.Stay) (state : σ)
    (moves : List OwnerMove) (hz : Nat) (paced : List PacedMove) :
    (.stop ∉ paced → (∀ id, .answered id .deregister ∉ paced) → ∀ n,
      let manual := ((Attended.fresh true state).run conduct moves).diary.exchanges
      let given := ((Consulted.start hz).run paced).exchanges
      (manual.take n).map (·.request) = (given.take n).map (·.request) →
        manual.take n = given.take n ∧
          given = Registry.exchanges {} (given.map (·.request))) ∧
    ∀ later request, request.expects = true →
      (((Consulted.start hz).run (paced ++ .stop :: later)).clock.serve request).1 =
        .refused .stopped := by
  constructor
  · intro hstop hanswers n manual given hrequests
    have hmanual := (Attended.honours_law hstay).run moves (Attended.fresh true state)
      ⟨rfl, .fresh⟩
    have hgiven := Consulted.Honours.run (a := .start hz) ⟨rfl, .fresh⟩ hstop hanswers
    exact ⟨hmanual.contract.agree hgiven.contract hrequests, hgiven.contract.exchanges⟩
  · intro later request hexpects
    have hstopped : ((Consulted.start hz).run (paced ++ .stop :: later)).clock.running = false := by
      rw [Consulted.run, List.foldl_append]
      exact Consulted.run_stopped rfl later
    exact (PacedClock.serve_of_stopped hstopped request).2 hexpects

/-- Listeners that, told of a vsync, have the second listener unregistered, ask for a vsync in its
name, and register one more, for which they also ask. -/
def meddling : Conducts Unit := fun _ notice _ =>
  match notice with
  | .events _ =>
    .ask (.unregister ⟨2⟩) fun _ => .ask (.tick ⟨2⟩) fun _ => .ask .register fun
      | .registered new => .ask (.tick new) fun _ => .answer .keep ()
      | _ => .answer .keep ()
  | _ => .answer .keep ()

theorem meddling_stay : meddling.Stay := by
  intro id notice s
  cases notice with
  | events es =>
      intro _ _ answer
      cases answer with
      | registered new => exact fun _ => rfl
      | accepted => exact rfl
      | refused error => exact rfl
  | timer token => exact rfl
  | failure => exact rfl

/-- A vsync delivered by the one clock and the other at different times, with a listener that
meddles in between: known and unknown listeners are told apart alike, until one clock is stopped. -/
theorem clocks_answer_alike_of_meddling :
    let moves : List OwnerMove :=
      [.ask .register, .ask .register, .ask (.tick ⟨1⟩), .burst [5], .advance 100 3,
        .ask (.schedule ⟨9⟩ ⟨7⟩ 50)]
    let paced : List PacedMove :=
      [.ask .register, .pass 1000, .ask .register, .ask (.tick ⟨1⟩), .deliver 20000000,
        .ask (.unregister ⟨2⟩), .ask (.tick ⟨2⟩), .ask .register, .ask (.tick ⟨3⟩),
        .answered ⟨1⟩ .keep, .ask (.schedule ⟨9⟩ ⟨7⟩ 50)]
    let given := ((Consulted.start 60).run paced).exchanges
    ((Attended.fresh true ()).run meddling moves).diary.exchanges.take 8 = given.take 8 ∧
      given.map (·.answer) =
        [.registered ⟨1⟩, .registered ⟨2⟩, .accepted, .accepted,
          .refused (.unknownListener ⟨2⟩), .registered ⟨3⟩, .accepted,
          .refused (.unknownListener ⟨9⟩)] ∧
      ∀ id, (((Consulted.start 60).run (paced ++ [.stop, .ask (.unregister ⟨1⟩)])).clock.serve
        (.tick id)).1 = .refused .stopped := by
  intro moves paced given
  obtain ⟨halike, hstopped⟩ := clocks_answer_alike meddling_stay () moves 60 paced
  have hstay : ∀ id, .answered id .deregister ∉ paced := by simp [paced]
  obtain ⟨hsame, -⟩ := halike (by decide) hstay 8 (by decide +kernel)
  exact ⟨hsame, by decide +kernel, fun id => hstopped [.ask (.unregister ⟨1⟩)] (.tick id) rfl⟩

end ScreenPointer
