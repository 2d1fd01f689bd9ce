/-
# Contacts of a session

What a caller can expect of a report of contacts in any state of a run with a
display.  The limit on spots counts those that still follow contacts lifted by the
same report, so a list within the limit is not always shown as a whole; which
lists are is settled by the order in which contacts take their places.
-/

import ScreenPointer.Proofs.Drawing
import ScreenPointer.Proofs.Spots.Showing

namespace ScreenPointer

namespace Live

/-- With a display, a report of contacts updates the spots of its display. -/
theorem setSpots_spots {l : Live} {icons : DisplayIcons}
    (hvalid : l.controller.viewport.isValid = true) (hicons : l.controller.icons = some icons)
    (contacts : List Contact) (display : DisplayId) :
    (l.setSpots contacts display).controller.spots =
      (l.controller.spots.update contacts display icons.spots
        l.world.surface.openTransaction).2.1 := by
  unfold setSpots
  rw [hvalid, hicons]
  exact congrArg (·.controller.spots) (startIf_scene _ _)

end Live

namespace Session

/-- After a report every listed contact has exactly one spot at its last place and all
other spots of the display fade, provided that the contacts of the list keep their places
while they come one after another, and only then.  They do if the contacts followed before
and the listed ones fit on the display together. -/
theorem setSpots_shows_all_iff {s : Session} (hs : s.Reachable) {c : Controller}
    (hc : s.host.controller = some c) (hvalid : c.viewport.isValid = true)
    (contacts : List Contact) (display : DisplayId) :
    ∃ c', (s.step (.command (.setSpots contacts display))).2.host.controller = some c' ∧
      (SpotPool.ShowsAll contacts (c'.spots.spots display) ↔
        SpotPool.KeepPlaces (max c.settings.spots.maxSpots 1)
          ((c.spots.spots display).map (·.phase)) (contacts.map (·.id))) ∧
      ((SpotPool.down (c.spots.spots display) ++ contacts.map (·.id)).toFinset.card ≤
          max c.settings.spots.maxSpots 1 →
        SpotPool.ShowsAll contacts (c'.spots.spots display)) := by
  obtain ⟨clock, ⟨controller, world⟩, reported⟩ := s
  cases hc
  obtain ⟨pointer, hstaged⟩ := staged_law.live_meets hs rfl
  obtain ⟨icons, hicons⟩ := Option.isSome_iff_exists.mp (hstaged.upToDate hvalid).loaded
  have hpositive : 1 ≤ c.spots.maxSpots := hstaged.kept.pool.positive
  have hroster : SpotPool.Roster c.spots.maxSpots (c.spots.spots display) :=
    hstaged.kept.pool.roster display
  have hmax : c.spots.maxSpots = max c.settings.spots.maxSpots 1 :=
    congrArg (·.maxSpots) hstaged.kept.limits
  have hspots : ((Live.mk c clock world).setSpots contacts display).controller.spots =
      (c.spots.update contacts display icons.spots world.surface.openTransaction).2.1 :=
    Live.setSpots_spots hvalid hicons contacts display
  rw [← hmax]
  refine ⟨_, rfl, ?_, fun hfit => ?_⟩
  · change SpotPool.ShowsAll contacts
      (((Live.mk c clock world).setSpots contacts display).controller.spots.spots display) ↔ _
    rw [hspots]
    exact SpotPool.update_showsAll_iff hpositive contacts _ hroster
  · change SpotPool.ShowsAll contacts
      (((Live.mk c clock world).setSpots contacts display).controller.spots.spots display)
    rw [hspots]
    exact SpotPool.update_showsAll_of_fit hpositive _ hroster hfit

/-- Two contacts on a display that has room for two. -/
def twoContacts : Session :=
  (blank 0 true .plain).run
    [.create { spots := { maxSpots := 2 } }, .command (.setViewport (.whole .builtin 800 600)),
      .command (.setSpots [⟨⟨1⟩, .origin, 1⟩, ⟨⟨2⟩, .origin, 1⟩] .builtin)]

/-- Both contacts, reported again in the other order, fit and are shown. -/
theorem setSpots_shows_both :
    ∃ c', (twoContacts.step (.command (.setSpots
        [⟨⟨2⟩, .origin, 0⟩, ⟨⟨1⟩, .origin, 1⟩] .builtin))).2.host.controller = some c' ∧
      SpotPool.ShowsAll [⟨⟨2⟩, .origin, 0⟩, ⟨⟨1⟩, .origin, 1⟩] (c'.spots.spots .builtin) := by
  have hstate : (twoContacts.host.controller.map fun c => (c.viewport.isValid,
      SpotPool.down (c.spots.spots .builtin), c.settings.spots.maxSpots)) =
        some (true, [⟨1⟩, ⟨2⟩], 2) := by
    decide +kernel
  obtain ⟨c, hc, heq⟩ := Option.map_eq_some_iff.mp hstate
  obtain ⟨hvalid, hdown, hmax⟩ : c.viewport.isValid = true ∧
      SpotPool.down (c.spots.spots .builtin) = [⟨1⟩, ⟨2⟩] ∧ c.settings.spots.maxSpots = 2 := by
    simpa using heq
  obtain ⟨c', hc', -, hfit⟩ := setSpots_shows_all_iff ⟨0, true, .plain, _, rfl⟩ hc hvalid
    [⟨⟨2⟩, .origin, 0⟩, ⟨⟨1⟩, .origin, 1⟩] .builtin
  refine ⟨c', hc', hfit ?_⟩
  rw [hdown, hmax]
  decide

/-- A list within the limit that is not shown: while the second contact still has its
spot, the third displaces that of the first, which is listed. -/
theorem setSpots_loses_listed_contact :
    ∃ c c', twoContacts.Reachable ∧ twoContacts.host.controller = some c ∧
      c.viewport.isValid = true ∧ c.settings.spots.maxSpots = 2 ∧
      (twoContacts.step (.command (.setSpots
        [⟨⟨1⟩, .origin, 1⟩, ⟨⟨3⟩, .origin, 1⟩] .builtin))).2.host.controller = some c' ∧
      ¬ SpotPool.ShowsAll [⟨⟨1⟩, .origin, 1⟩, ⟨⟨3⟩, .origin, 1⟩] (c'.spots.spots .builtin) := by
  have hbefore : (twoContacts.host.controller.map fun c =>
      (c.viewport.isValid, c.settings.spots.maxSpots)) = some (true, 2) := by
    decide +kernel
  have hafter : ((twoContacts.step (.command (.setSpots
      [⟨⟨1⟩, .origin, 1⟩, ⟨⟨3⟩, .origin, 1⟩] .builtin))).2.host.controller.map fun c =>
        (c.spots.spots .builtin).filter (·.follows ⟨1⟩)) = some [] := by
    decide +kernel
  obtain ⟨c, hc, heq⟩ := Option.map_eq_some_iff.mp hbefore
  obtain ⟨c', hc', hnone⟩ := Option.map_eq_some_iff.mp hafter
  obtain ⟨hvalid, hmax⟩ := Prod.mk.inj heq
  refine ⟨c, c', ⟨0, true, .plain, _, rfl⟩, hc, hvalid, hmax, hc', fun hall => ?_⟩
  obtain ⟨s, hs, -⟩ := hall.shown ⟨⟨1⟩, .origin, 1⟩ List.mem_cons_self
  cases hnone.symm.trans hs

end Session

end ScreenPointer
