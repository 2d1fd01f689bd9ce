/-
# Listeners that keep to requests

A listener function may do anything to the clock it is shown.  A listener that
keeps to the requests every clock serves has a conduct: it looks at the time and
makes requests, one after another and each with a view to the answers before, and
in the end says whether it wants to hear more.

`Conducts.hear` makes listeners of conducts, and has them keep a diary: whenever a
listener is told something, has made a request or has answered, the diary gets an
entry with the clock as it then is.  Between the entries of a diary the clock is in
use; at each of them anyone might look at it.

`Course` says what may stand next to each other in a diary.  Everything known about
deliveries to such listeners is derived from it.
-/

import ScreenPointer.Proofs.Delivery

namespace ScreenPointer

/-- What a listener does about one notice: it looks at the time and makes requests, each with a view
to the answers before, and in the end says whether it wants to hear more. -/
inductive Conduct (σ : Type) where
  /-- It is done; `state` is what has become of the listeners' own state. -/
  | answer (status : ListenerStatus) (state : σ)
  | look (next : Nanos → Conduct σ)
  | ask (request : ClockRequest) (next : ClockAnswer → Conduct σ)

/-- How all listeners of a clock behave, over a state of their own. -/
abbrev Conducts (σ : Type) := ListenerId → Notice → σ → Conduct σ

/-- Something that happens between a clock and its listeners. -/
inductive Occurrence
  | told (id : ListenerId) (notice : Notice)
  | asked (request : ClockRequest) (answer : ClockAnswer)
  | answered (id : ListenerId) (status : ListenerStatus)
  deriving DecidableEq, Repr

structure DiaryEntry where
  occurrence : Occurrence
  clock : ManualClock
  deriving DecidableEq, Repr

abbrev Diary := List DiaryEntry

def ManualClock.honour (c : ManualClock) (id : ListenerId) : ListenerStatus → ManualClock
  | .keep => c
  | .deregister => c.forget id

namespace Conduct

variable {σ : Type}

/-- Carry out a conduct.  The entry for the listener's own answer has the clock as
the answer leaves it. -/
def follow (own : ListenerId) :
    Conduct σ → ManualClock → Diary → ListenerStatus × ManualClock × σ × Diary
  | answer status s, c, d => (status, c, s, d ++ [⟨.answered own status, c.honour own status⟩])
  | look next, c, d => (next c.now).follow own c d
  | ask request next, c, d =>
    let (given, c) := c.serve request
    (next given).follow own c (d ++ [⟨.asked request given, c⟩])

end Conduct

/-- Listeners of the given conducts, and their diary. -/
def Conducts.hear {σ : Type} (conduct : Conducts σ) : Listeners (σ × Diary) :=
  fun id notice c p => (conduct id notice p.1).follow id c (p.2 ++ [⟨.told id notice, c⟩])

/-! ## Courses -/

/-- One occurrence, from the clock before it to the clock after it. -/
inductive Happens : ManualClock → Occurrence → ManualClock → Prop
  | told (c : ManualClock) (id : ListenerId) (notice : Notice) : Happens c (.told id notice) c
  | asked (c : ManualClock) (request : ClockRequest) :
      Happens c (.asked request (c.serve request).1) (c.serve request).2
  | answered (c : ManualClock) (id : ListenerId) (status : ListenerStatus) :
      Happens c (.answered id status) (c.honour id status)

/-- The entries written while a clock becomes another one by occurrences alone.  Nobody else has
touched it in between. -/
inductive Course : ManualClock → Diary → ManualClock → Prop
  | nil (c : ManualClock) : Course c [] c
  | cons {c c' c'' : ManualClock} {o : Occurrence} {rest : Diary} :
      Happens c o c' → Course c' rest c'' → Course c (⟨o, c'⟩ :: rest) c''

namespace Course

variable {c c' c'' : ManualClock} {first second : Diary}

theorem single {o : Occurrence} (h : Happens c o c') : Course c [⟨o, c'⟩] c' :=
  .cons h (.nil c')

theorem trans (h : Course c first c') (h' : Course c' second c'') :
    Course c (first ++ second) c'' := by
  induction h with
  | nil _ => exact h'
  | cons happens _ ih => exact .cons happens (ih h')

end Course

def Occurrence.call? : Occurrence → Option (ListenerId × Notice)
  | told id notice => some (id, notice)
  | asked .. | answered .. => none

namespace Diary

def calls (d : Diary) : List (ListenerId × Notice) := d.filterMap (·.occurrence.call?)

@[simp]
theorem calls_nil : calls [] = [] := rfl

@[simp]
theorem calls_append (first second : Diary) :
    calls (first ++ second) = calls first ++ calls second := List.filterMap_append

@[simp]
theorem calls_cons (e : DiaryEntry) (d : Diary) :
    calls (e :: d) = e.occurrence.call?.toList ++ calls d := by
  cases h : e.occurrence.call? <;> simp [calls, h]

end Diary

namespace Conduct

variable {σ : Type}

/-- While a conduct is carried out nobody is told anything, and the clock comes to
where the last entry has it once the answer is honoured. -/
theorem follow_course (own : ListenerId) (conduct : Conduct σ) (c : ManualClock) (d : Diary) :
    ∃ status c' s news, conduct.follow own c d = (status, c', s, d ++ news) ∧
      Course c news (c'.honour own status) ∧ Diary.calls news = [] := by
  induction conduct generalizing c d with
  | answer status s =>
      exact ⟨status, c, s, _, rfl, .single (.answered c own status), rfl⟩
  | look next ih => exact ih c.now c d
  | ask request next ih =>
      obtain ⟨status, c', s, news, hfollow, hcourse, hcalls⟩ :=
        ih (c.serve request).1 (c.serve request).2
          (d ++ [⟨.asked request (c.serve request).1, (c.serve request).2⟩])
      refine ⟨status, c', s, _ :: news, ?_, .cons (.asked c request) hcourse, ?_⟩
      · rw [List.append_cons]
        exact hfollow
      · simpa [Occurrence.call?] using hcalls

end Conduct

namespace ManualClock

variable {σ : Type} (conduct : Conducts σ)

/-- Telling a listener is one call and what follows from it. -/
theorem tell_course (notice : Notice) (id : ListenerId) (c : ManualClock) (s : σ) (d : Diary) :
    ∃ c' s' news, c.tell conduct.hear notice id (s, d) = (c', s', d ++ news) ∧
      Course c news c' ∧ Diary.calls news = [(id, notice)] ∧
      news.head? = some ⟨.told id notice, c⟩ := by
  obtain ⟨status, c', s', news, hfollow, hcourse, hcalls⟩ :=
    (conduct id notice s).follow_course id c (d ++ [⟨.told id notice, c⟩])
  have hhear : conduct.hear id notice c (s, d) =
      (status, c', s', d ++ ⟨.told id notice, c⟩ :: news) := by
    rw [List.append_cons]
    exact hfollow
  refine ⟨c'.honour id status, s', ⟨.told id notice, c⟩ :: news, ?_,
    .cons (.told c id notice) hcourse, ?_, rfl⟩
  · unfold tell
    rw [hhear]
    cases status <;> rfl
  · simp [Occurrence.call?, hcalls]

/-- Telling several listeners calls each of them, in order. -/
theorem tellAll_course (notice : Notice) (ids : List ListenerId) (c : ManualClock) (s : σ)
    (d : Diary) :
    ∃ c' s' news, tellAll conduct.hear notice ids c (s, d) = (c', s', d ++ news) ∧
      Course c news c' ∧ Diary.calls news = ids.map fun id => (id, notice) := by
  induction ids generalizing c s d with
  | nil => exact ⟨c, s, [], by rw [List.append_nil]; rfl, .nil c, rfl⟩
  | cons id rest ih =>
      obtain ⟨c₁, s₁, news₁, htell, hcourse₁, hcalls₁, -⟩ :=
        tell_course conduct notice id c s d
      obtain ⟨c₂, s₂, news₂, hrest, hcourse₂, hcalls₂⟩ := ih c₁ s₁ (d ++ news₁)
      refine ⟨c₂, s₂, news₁ ++ news₂, ?_, hcourse₁.trans hcourse₂, ?_⟩
      · change tellAll conduct.hear notice rest (c.tell conduct.hear notice id (s, d)).1
          (c.tell conduct.hear notice id (s, d)).2 = _
        rw [htell, ← List.append_assoc]
        exact hrest
      · rw [Diary.calls_append, hcalls₁, hcalls₂]
        rfl

end ManualClock

end ScreenPointer
