/-
# Displays do not tell of each other

A pool serves all displays from one stock of spare sprites, and where a call is for every
display it visits them in an order that nobody fixes.  Still each display appears as if it
had a pool of its own that is told of its own calls only and makes a new sprite for every
spot: the pool refines independent pools that never reuse anything.
-/

import ScreenPointer.Proofs.Spots.Sights

namespace ScreenPointer

inductive SpotCall
  | update (contacts : List Contact) (display : DisplayId)
  | fadeAll
  | advanceFades (delta : Single)
  deriving DecidableEq

namespace SpotCall

def reports (display : DisplayId) : SpotCall → Bool
  | update _ other => other = display
  | fadeAll | advanceFades _ => false

def concerns (display : DisplayId) : SpotCall → Bool
  | update _ other => other = display
  | fadeAll | advanceFades _ => true

end SpotCall

/-- What a call gives back, and the pool and the surface after it. -/
def SpotPool.call (pool : SpotPool) (icons : SpotIcons) (surface : Surface) :
    SpotCall → Bool × SpotPool × Surface
  | .update contacts display => pool.update contacts display icons surface
  | .fadeAll =>
    let (started, pool) := pool.fadeAll
    (started, pool, surface)
  | .advanceFades delta => pool.advanceFades delta surface

/-- A call together with the order in which it finds the displays. -/
structure SpotVisit where
  call : SpotCall
  order : Keyed DisplayId (List Spot) → Keyed DisplayId (List Spot)
  permutes : ∀ table, (order table).Perm table

/-- A pool at work: what it has become, and what its calls gave back. -/
structure SpotRun where
  pool : SpotPool
  surface : Surface
  results : List (SpotCall × Bool)

namespace SpotRun

def start (maxSpots maxRecycled : Nat) (scale : Single) (surface : Surface) : SpotRun :=
  ⟨.new maxSpots maxRecycled scale, surface, []⟩

def visit (icons : SpotIcons) (r : SpotRun) (v : SpotVisit) : SpotRun :=
  let (result, pool, surface) :=
    { r.pool with byDisplay := v.order r.pool.byDisplay }.call icons r.surface v.call
  ⟨pool, surface, r.results ++ [(v.call, result)]⟩

def run (icons : SpotIcons) (r : SpotRun) (visits : List SpotVisit) : SpotRun :=
  visits.foldl (visit icons) r

def sights (r : SpotRun) (display : DisplayId) : List SpotSight := r.pool.sights r.surface display

/-- What the reports of contacts on a display gave back, in order. -/
def answers (r : SpotRun) (display : DisplayId) : List (SpotCall × Bool) :=
  r.results.filter fun e => e.1.reports display

end SpotRun

namespace SpotPool

variable {owners owners' : List SpriteId} {pool pool' : SpotPool} {surface surface' : Surface}
  {display : DisplayId}

@[simp]
theorem call_scale (pool : SpotPool) (icons : SpotIcons) (surface : Surface)
    (call : SpotCall) : (pool.call icons surface call).2.1.scale = pool.scale := by
  cases call <;> rfl

@[simp]
theorem call_maxSpots (pool : SpotPool) (icons : SpotIcons) (surface : Surface)
    (call : SpotCall) : (pool.call icons surface call).2.1.maxSpots = pool.maxSpots := by
  cases call <;> rfl

@[simp]
theorem call_maxRecycled (pool : SpotPool) (icons : SpotIcons) (surface : Surface)
    (call : SpotCall) : (pool.call icons surface call).2.1.maxRecycled = pool.maxRecycled := by
  cases call <;> rfl

theorem Housed.call (h : Housed owners pool surface) (icons : SpotIcons) (call : SpotCall) :
    Housed owners (pool.call icons surface call).2.1 (pool.call icons surface call).2.2 := by
  cases call with
  | update contacts display => exact (h.update contacts display icons).1
  | fadeAll => exact h.fadeAll
  | advanceFades delta => exact h.advanceFades delta

/-- The sprite of every spot is on the surface. -/
theorem Housed.record_isSome (h : Housed owners pool surface) {sight : SpotSight}
    (hsight : sight ∈ pool.sights surface display) : sight.record.isSome = true := by
  obtain ⟨s, hs, rfl⟩ := List.mem_map.mp hsight
  have hsprite : s.sprite ∈ spritesOf (pool.spots display) := List.mem_map.mpr ⟨s, hs, rfl⟩
  obtain ⟨record, hrecord⟩ :=
    (h.guards_display display).exists_record (List.mem_append_left _ hsprite)
  exact Option.isSome_iff_exists.mpr ⟨record, hrecord⟩

/-- A call that is not for a display leaves it alone. -/
theorem Housed.call_sights_of_not (h : Housed owners pool surface) (icons : SpotIcons)
    {call : SpotCall} (hother : call.concerns display = false) :
    (pool.call icons surface call).2.1.sights (pool.call icons surface call).2.2 display =
      pool.sights surface display := by
  cases call with
  | update contacts other =>
      have hne : other ≠ display := by simpa [SpotCall.concerns] using hother
      exact h.update_sights_of_ne contacts icons hne.symm
  | fadeAll => cases hother
  | advanceFades delta => cases hother

/-- A call that is for a display does to it what it does to the same display elsewhere. -/
theorem Housed.call_sights (h : Housed owners pool surface) (icons : SpotIcons)
    (h' : Housed owners' pool' surface')
    (hscale : pool'.scale = pool.scale) (hmax : pool'.maxSpots = pool.maxSpots)
    {call : SpotCall} (hconcerns : call.concerns display = true)
    (hsights : pool.sights surface display = pool'.sights surface' display) :
    (pool.call icons surface call).2.1.sights (pool.call icons surface call).2.2 display =
        (pool'.call icons surface' call).2.1.sights (pool'.call icons surface' call).2.2 display ∧
      (call.reports display = true →
        (pool.call icons surface call).1 = (pool'.call icons surface' call).1) := by
  cases call with
  | update contacts other =>
      have heq : other = display := by simpa [SpotCall.concerns] using hconcerns
      subst heq
      obtain ⟨hafter, hresult⟩ := h.update_sights h' hscale hmax contacts icons hsights
      exact ⟨hafter, fun _ => hresult⟩
  | fadeAll =>
      refine ⟨?_, nofun⟩
      exact (Housed.fadeAll_sights pool surface display).trans
        ((congrArg (List.map SpotSight.faded) hsights).trans
          (Housed.fadeAll_sights pool' surface' display).symm)
  | advanceFades delta =>
      refine ⟨?_, nofun⟩
      exact (h.advanceFades_sights delta display).trans
        ((congrArg (List.filterMap (SpotSight.dimmed? delta)) hsights).trans
          (h'.advanceFades_sights delta display).symm)

end SpotPool

namespace SpotCall

variable {display : DisplayId} {call : SpotCall}

/-- The contacts of a display are for that display. -/
theorem concerns_of_reports (h : call.reports display = true) : call.concerns display = true := by
  cases call with
  | update contacts other => exact h
  | fadeAll => cases h
  | advanceFades delta => cases h

end SpotCall

namespace SpotRun

open SpotPool (Housed)

/-- A display of a shared pool appears as it does in a pool that serves no other display and
keeps no spare sprites. -/
structure Mirrors (owners owners' : List SpriteId) (display : DisplayId) (shared solo : SpotRun) :
    Prop where
  housed : Housed owners shared.pool shared.surface
  alone : Housed owners' solo.pool solo.surface
  sights : shared.sights display = solo.sights display
  answers : shared.answers display = solo.answers display
  scale : solo.pool.scale = shared.pool.scale
  maxSpots : solo.pool.maxSpots = shared.pool.maxSpots
  maxRecycled : solo.pool.maxRecycled = 0

variable {owners owners' : List SpriteId} {display : DisplayId} {shared solo r : SpotRun}
  {icons : SpotIcons} {v : SpotVisit}

@[simp]
theorem scale_visit (icons : SpotIcons) (r : SpotRun) (v : SpotVisit) :
    (r.visit icons v).pool.scale = r.pool.scale :=
  SpotPool.call_scale ..

@[simp]
theorem maxSpots_visit (icons : SpotIcons) (r : SpotRun) (v : SpotVisit) :
    (r.visit icons v).pool.maxSpots = r.pool.maxSpots :=
  SpotPool.call_maxSpots ..

@[simp]
theorem maxRecycled_visit (icons : SpotIcons) (r : SpotRun) (v : SpotVisit) :
    (r.visit icons v).pool.maxRecycled = r.pool.maxRecycled :=
  SpotPool.call_maxRecycled ..

theorem housed_visit (h : Housed owners r.pool r.surface) (icons : SpotIcons) (v : SpotVisit) :
    Housed owners (r.visit icons v).pool (r.visit icons v).surface :=
  (h.reorder (v.permutes _)).call icons v.call

/-- A report is one more answer. -/
theorem answers_visit (icons : SpotIcons) (r : SpotRun) (v : SpotVisit) (display : DisplayId) :
    (r.visit icons v).answers display = r.answers display ++
      if v.call.reports display then
        [(v.call, ({ r.pool with byDisplay := v.order r.pool.byDisplay }.call icons r.surface
          v.call).1)]
      else [] := by
  simp only [answers, visit, List.filter_append, List.filter_cons, List.filter_nil]

namespace Mirrors

theorem start {surface surface' : Surface} (h : surface.Owned owners)
    (h' : surface'.Owned owners') (maxSpots maxRecycled : Nat) (scale : Single)
    (display : DisplayId) :
    Mirrors owners owners' display (.start maxSpots maxRecycled scale surface)
      (.start maxSpots 0 scale surface') where
  housed := .new h ..
  alone := .new h' ..
  sights := rfl
  answers := rfl
  scale := rfl
  maxSpots := rfl
  maxRecycled := rfl

/-- What a call that is not for the display does is not seen there. -/
theorem pass (h : Mirrors owners owners' display shared solo)
    (hother : v.call.concerns display = false) :
    Mirrors owners owners' display (shared.visit icons v) solo where
  housed := housed_visit h.housed icons v
  alone := h.alone
  sights := by
    have hsights := (h.housed.reorder (v.permutes _)).call_sights_of_not icons hother
    rw [h.housed.sights_reorder (v.permutes _)] at hsights
    exact hsights.trans h.sights
  answers := by
    have hsilent : ¬ v.call.reports display = true := fun hreports =>
      Bool.noConfusion (hother.symm.trans (SpotCall.concerns_of_reports hreports))
    rw [answers_visit, if_neg hsilent, List.append_nil, h.answers]
  scale := by rw [scale_visit, h.scale]
  maxSpots := by rw [maxSpots_visit, h.maxSpots]
  maxRecycled := h.maxRecycled

/-- What a call for the display does is the same in both pools. -/
theorem both (h : Mirrors owners owners' display shared solo)
    (hconcerns : v.call.concerns display = true) :
    Mirrors owners owners' display (shared.visit icons v) (solo.visit icons v) := by
  -- Visiting the displays in another order leaves everything to be seen as it was.
  have hshared := h.housed.reorder (v.permutes _)
  have hsolo := h.alone.reorder (v.permutes _)
  have hsights : { shared.pool with byDisplay := v.order shared.pool.byDisplay }.sights
        shared.surface display =
      { solo.pool with byDisplay := v.order solo.pool.byDisplay }.sights solo.surface display :=
    calc _ = shared.sights display := h.housed.sights_reorder (v.permutes _) display
      _ = solo.sights display := h.sights
      _ = _ := (h.alone.sights_reorder (v.permutes _) display).symm
  obtain ⟨hafter, hresult⟩ :=
    hshared.call_sights icons hsolo h.scale h.maxSpots hconcerns hsights
  exact {
    housed := housed_visit h.housed icons v
    alone := housed_visit h.alone icons v
    sights := hafter
    answers := by
      rw [answers_visit, answers_visit, h.answers]
      split
      · rename_i hreports
        rw [hresult hreports]
      · rfl
    scale := by rw [scale_visit, scale_visit, h.scale]
    maxSpots := by rw [maxSpots_visit, maxSpots_visit, h.maxSpots]
    maxRecycled := by rw [maxRecycled_visit, h.maxRecycled] }

/-- The pool that serves one display needs to be told of what is for that display only. -/
theorem run (h : Mirrors owners owners' display shared solo) (icons : SpotIcons)
    (visits : List SpotVisit) :
    Mirrors owners owners' display (shared.run icons visits)
      (solo.run icons (visits.filter fun v => v.call.concerns display)) := by
  induction visits generalizing shared solo with
  | nil => exact h
  | cons v rest ih =>
      rw [List.filter_cons]
      split
      · rename_i hconcerns
        exact ih (h.both hconcerns)
      · rename_i hother
        exact ih (h.pass (Bool.eq_false_iff.mpr hother))

/-- A pool that keeps no spare sprites has none. -/
theorem recycled (h : Mirrors owners owners' display shared solo) : solo.pool.recycled = [] := by
  have hshelf : solo.pool.recycled.length ≤ solo.pool.maxRecycled := h.alone.guards.shelf
  rw [h.maxRecycled] at hshelf
  exact List.eq_nil_of_length_eq_zero (Nat.le_zero.mp hshelf)

end Mirrors

/-- Whatever is called in whatever order of displays, each display appears, and its reports are
answered, as in a pool of the same limits that is told of what is for that display only and has
no spare sprites, so that it takes a new one for every spot. -/
theorem display_refines_solo {surface surface' : Surface} (h : surface.Owned owners)
    (h' : surface'.Owned owners') (icons : SpotIcons) (maxSpots maxRecycled : Nat) (scale : Single)
    (visits : List SpotVisit) (display : DisplayId) :
    let shared := (start maxSpots maxRecycled scale surface).run icons visits
    let solo := (start maxSpots 0 scale surface').run icons
      (visits.filter fun v => v.call.concerns display)
    shared.sights display = solo.sights display ∧
      (∀ sight ∈ shared.sights display, sight.record.isSome = true) ∧
      shared.answers display = solo.answers display ∧
      solo.pool.recycled = [] := by
  intro shared solo
  have hstart : Mirrors owners owners' display (start maxSpots maxRecycled scale surface)
      (start maxSpots 0 scale surface') := .start h h' maxSpots maxRecycled scale display
  have hmirrors : Mirrors owners owners' display shared solo := hstart.run icons visits
  exact ⟨hmirrors.sights, fun _ => hmirrors.housed.record_isSome, hmirrors.answers,
    hmirrors.recycled⟩

/-- A sprite that another display used before looks like a new one. -/
theorem reused_sprite_looks_new :
    let icons := Catalogue.plain.spots
    let first : Contact := ⟨⟨1⟩, ⟨5, 5⟩, 1⟩
    let second : Contact := ⟨⟨2⟩, ⟨6, 6⟩, 0⟩
    let visits := [SpotCall.update [first] .builtin, .update [second] ⟨1⟩, .update [] .builtin,
      .advanceFades 1, .update [second, first] ⟨1⟩].map fun call =>
        (⟨call, List.reverse, List.reverse_perm⟩ : SpotVisit)
    let shared := (start 12 12 1 {}).run icons visits
    let solo := (start 12 0 1 {}).run icons (visits.filter fun v => v.call.concerns ⟨1⟩)
    (shared.pool.spots ⟨1⟩).map (·.sprite) = [⟨1⟩, ⟨0⟩] ∧
      (solo.pool.spots ⟨1⟩).map (·.sprite) = [⟨0⟩, ⟨1⟩] ∧
      shared.sights ⟨1⟩ = solo.sights ⟨1⟩ := by
  intro icons first second visits shared solo
  have hsights : shared.sights ⟨1⟩ = solo.sights ⟨1⟩ :=
    (display_refines_solo Surface.owned_empty Surface.owned_empty icons 12 12 1 visits ⟨1⟩).1
  exact ⟨by decide +kernel, by decide +kernel, hsights⟩

end SpotRun

end ScreenPointer
