/-
# An icon of the application's own

The application's icon is kept in the table of further icons, under an id of its own.  It
is shown from its installation on, whatever else happens, until the icons of a display are
loaded: that replaces the table, and the icon is gone, although it is still asked for.
-/

import ScreenPointer.Proofs.Icons.Portrait

namespace ScreenPointer

def Command.Spares (custom : IconId) : Command → Prop
  | .setCustomIcon _ => False
  | .requestIcon id => id = custom
  | _ => True

/-- Does the step leave the controller at work, and the application's icon with it? -/
def Step.Spares (custom : IconId) : Step → Prop
  | .create _ | .drop => False
  | .command asked => asked.Spares custom
  | _ => True

namespace IconView

/-- An icon of the application's own was installed when icons had been loaded `n` times. -/
structure Carries (n : Nat) (icon : Icon) (v : IconView) : Prop where
  requested : v.requested = v.catalogue.customId
  counted : n ≤ v.loads
  installed : v.loads = n → v.mouse.icons.find? v.catalogue.customId = some icon ∧
    v.mouse.animations.find? v.catalogue.customId = none
  /-- After loading there is only what the catalogue serves, if that is wanted. -/
  replaced : v.loads ≠ n → v.valid = true →
    v.mouse = v.catalogue.mouse ∨ (v.presentation = .spot ∧ v.mouse = .empty)

namespace Carries

variable {n : Nat} {icon : Icon} {v w : IconView} {command : Command}

theorem withCustom (v : IconView) (icon : Icon) : Carries v.loads icon (v.withCustom icon) where
  requested := rfl
  counted := Nat.le_refl _
  installed _ := ⟨Keyed.find?_insert_self _ icon v.mouse.icons,
    Keyed.find?_erase_self _ v.mouse.animations⟩
  replaced hloads := absurd rfl hloads

/-- What was in the table before does not matter once it is loaded. -/
theorem loaded (hrequested : v.requested = v.catalogue.customId) (hcounted : n ≤ v.loads) :
    Carries n icon v.loaded where
  requested := hrequested
  counted := Nat.le_succ_of_le hcounted
  installed hloads := absurd (hloads.symm ▸ hcounted) (Nat.not_succ_le_self _)
  replaced _ _ := by
    unfold IconView.loaded
    cases v.presentation with
    | pointer => exact .inl rfl
    | spot => exact .inr ⟨rfl, rfl⟩

/-- The table that holds the application's icon is not empty, so nothing is loaded into it. -/
theorem pointing (h : Carries n icon v) : Carries n icon v.pointing where
  requested := h.requested
  counted := h.counted
  installed hloads := by
    obtain ⟨hicon, hanimation⟩ := h.installed hloads
    have hoccupied : v.mouse.isEmpty = false := by
      unfold MouseIcons.isEmpty
      cases hicons : v.mouse.icons with
      | nil =>
          rw [hicons] at hicon
          cases hicon
      | cons pair rest => rfl
    simp only [IconView.pointing, hoccupied, Bool.false_and, Bool.false_eq_true, if_false]
    exact ⟨hicon, hanimation⟩
  replaced hloads hvalid := by
    left
    rcases h.replaced hloads hvalid with hserved | ⟨-, hempty⟩
    · simp only [IconView.pointing, hserved, ite_self]
    · have hvalid : v.valid = true := hvalid
      simp [IconView.pointing, hempty, hvalid, MouseIcons.empty, MouseIcons.isEmpty]

end Carries

theorem Turns.carries {n : Nat} {icon : Icon} {v w : IconView} {command : Command}
    (turns : v.Turns command w) (hspares : command.Spares v.catalogue.customId)
    (h : Carries n icon v) : Carries n icon w := by
  cases turns with
  | kept => exact h
  | away gone => exact { h with replaced := fun _ hvalid => absurd hvalid Bool.false_ne_true }
  | displayed shown => exact .loaded h.requested h.counted
  | reloaded valid => exact .loaded h.requested h.counted
  | spots =>
      exact { h with replaced := fun hloads hvalid =>
        (h.replaced hloads hvalid).imp id fun hempty => ⟨rfl, hempty.2⟩ }
  | pointing spots => exact h.pointing
  | asked id => exact { h with requested := hspares }
  | custom icon => exact absurd hspares id

end IconView

namespace Session

theorem run_carries {s : Session} {n : Nat} {icon : Icon}
    (h : IconView.Carries n icon s.host.iconView) {steps : List Step}
    (hsteps : ∀ step ∈ steps, step.Spares s.host.iconView.catalogue.customId) :
    IconView.Carries n icon (s.run steps).host.iconView ∧
      (s.run steps).host.iconView.catalogue = s.host.iconView.catalogue := by
  induction steps using List.reverseRecOn with
  | nil => exact ⟨h, rfl⟩
  | append_singleton steps step ih =>
      obtain ⟨hcarries, hcatalogue⟩ := ih fun x hx => hsteps x (List.mem_append_left _ hx)
      have hspares := hsteps step (by simp)
      rw [← hcatalogue] at hspares
      rw [run_concat]
      refine ⟨?_, (step_iconView_catalogue _ step).trans hcatalogue⟩
      have hturns := (s.run steps).step_turns step
      generalize ((s.run steps).step step).2.host.iconView = w at hturns ⊢
      cases hturns with
      | kept => exact hcarries
      | cleared replaces =>
          cases step with
          | create settings => exact absurd hspares id
          | drop => exact absurd hspares id
          | _ => cases replaces
      | @turned c command w working asks turns =>
          refine turns.carries ?_ hcarries
          cases step with
          | command asked =>
              cases Option.some.inj asks
              exact hspares
          | rotate rotation =>
              cases Option.some.inj asks
              trivial
          | _ => cases asks

/-- From its installation on an icon of the application's own is shown on every valid display with
a mouse pointer for as long as no icons of a display are loaded.  Loading replaces it by what the
catalogue serves: if that is nothing, the default pointer is shown, although the application's icon
is still asked for. -/
theorem custom_icon_shown_until_loaded {s : Session} (hs : s.Reachable)
    (hworking : s.host.controller.isSome = true)
    (hcustom : s.host.iconView.catalogue.customId ≠ s.host.iconView.catalogue.defaultId)
    (icon : Icon) {steps : List Step}
    (hsteps : ∀ step ∈ steps, step.Spares s.host.iconView.catalogue.customId) :
    let s' := s.run (.command (.setCustomIcon icon) :: steps)
    let catalogue := s.host.iconView.catalogue
    s'.host.iconView.requested = catalogue.customId ∧
    (s'.host.iconView.valid = true → s'.host.iconView.presentation = .pointer →
      (s'.host.iconView.loads = s.host.iconView.loads → s'.host.shownIcon? = some icon) ∧
      (s'.host.iconView.loads ≠ s.host.iconView.loads →
        s'.host.iconView.mouse = catalogue.mouse ∧
        (catalogue.mouse.icons.find? catalogue.customId = none →
          catalogue.mouse.animations.find? catalogue.customId = none →
            s'.host.shownIcon? = some catalogue.pointer))) := by
  intro s' catalogue
  obtain ⟨c₀, hc₀⟩ := Option.isSome_iff_exists.mp hworking
  have hinstalled := step_setCustomIcon_iconView hc₀ icon
  generalize hstart : (s.step (.command (.setCustomIcon icon))).2 = installed at hinstalled
  have hs' : s' = installed.run steps := by rw [← hstart]; rfl
  have hcarries : IconView.Carries s.host.iconView.loads icon installed.host.iconView := by
    rw [hinstalled]
    exact .withCustom _ icon
  have hspares : ∀ step ∈ steps, step.Spares installed.host.iconView.catalogue.customId := by
    rw [hinstalled]
    exact hsteps
  obtain ⟨hcarries, hsame⟩ := run_carries hcarries hspares
  rw [← hs', hinstalled] at hsame
  rw [← hs'] at hcarries
  have hcatalogue : s'.host.iconView.catalogue = catalogue := hsame
  have hother : catalogue.customId ≠ catalogue.defaultId := hcustom
  refine ⟨hcarries.requested.trans (by rw [hcatalogue]), fun hvalid hpresented => ?_⟩
  obtain ⟨c, hc⟩ := Host.exists_controller hvalid
  have hview := Host.iconView_of_some hc
  rw [hview] at hcarries hcatalogue hvalid hpresented ⊢
  have hrequested : c.pointer.requested = catalogue.customId :=
    hcarries.requested.trans (by rw [hcatalogue])
  have hworld : s'.host.world.catalogue = catalogue := hcatalogue
  have hshows := shown_of_matchesAt (hs.run _) hc hvalid
  rw [hworld, hrequested] at hshows
  refine ⟨fun hloads => ?_, fun hloads => ?_⟩
  · obtain ⟨hicon, hanimation⟩ := hcarries.installed hloads
    rw [hcatalogue] at hicon hanimation
    have hicon : c.mouse.icons.find? catalogue.customId = some icon := hicon
    have hanimation : c.mouse.animations.find? catalogue.customId = none := hanimation
    obtain ⟨shown, hshown, hportrait⟩ := hshows fun animation hfound =>
      absurd (hfound.symm.trans hanimation) (Option.some_ne_none animation)
    have hpresented : c.pointer.presentation = .pointer := hpresented
    simp only [Controller.portrait?, hpresented, hrequested, hicon, hanimation,
      if_neg hother] at hportrait
    rw [hshown, ← hportrait]
  · have hreplaced := hcarries.replaced hloads hvalid
    rw [hcatalogue] at hreplaced
    have hmouse : c.mouse = catalogue.mouse := hreplaced.resolve_right fun hspots => by
      cases hspots.1.symm.trans hpresented
    refine ⟨hmouse, fun hicon hanimation => ?_⟩
    rw [← hmouse] at hicon hanimation
    obtain ⟨shown, hshown, hportrait⟩ := hshows fun animation hfound =>
      absurd (hfound.symm.trans hanimation) (Option.some_ne_none animation)
    have hpresented : c.pointer.presentation = .pointer := hpresented
    simp only [Controller.portrait?, hpresented, hrequested, hicon] at hportrait
    rw [hshown, ← hportrait]

/-- An icon of the application's own outlasts a turn of the display, a time with spots and a
viewport that shows another part of the panel. -/
theorem custom_icon_shown_after_spots :
    let icon := Icon.square ⟨1, 2, 3, 255⟩
    ((blank 0 true .plain).run [.create {}, .command (.setViewport (.whole .builtin 100 50))]
      |>.run [.command (.setCustomIcon icon), .rotate .quarter, .command (.present .spot),
        .command (.setViewport ⟨.builtin, .upright, 0, 0, 60, 40, 100, 50⟩),
        .command (.present .pointer), .command (.moveBy 3 4)]).host.shownIcon? = some icon := by
  intro icon
  generalize hs : (blank 0 true .plain).run
    [.create {}, .command (.setViewport (.whole .builtin 100 50))] = s
  have hreachable : s.Reachable := ⟨0, true, .plain, _, hs.symm⟩
  have hspares : ∀ step ∈ [Step.rotate .quarter, .command (.present .spot),
      .command (.setViewport ⟨.builtin, .upright, 0, 0, 60, 40, 100, 50⟩),
      .command (.present .pointer), .command (.moveBy 3 4)],
      step.Spares s.host.iconView.catalogue.customId := by
    simp [Step.Spares, Command.Spares]
  have hcustom : s.host.iconView.catalogue.customId ≠ s.host.iconView.catalogue.defaultId := by
    rw [← hs]
    decide +kernel
  refine ((custom_icon_shown_until_loaded hreachable ?_ hcustom icon hspares).2 ?_ ?_).1 ?_
  all_goals
    rw [← hs]
    decide +kernel

/-- An icon of the application's own is gone once the icons are loaded again, and one that was
installed before the first display is never seen. -/
theorem custom_icon_lost_by_loading :
    let installed := Step.command (.setCustomIcon (.square ⟨1, 2, 3, 255⟩))
    let displayed := Step.command (.setViewport (.whole .builtin 100 50))
    ((blank 0 true .plain).run
      [.create {}, displayed, installed, .command .reload]).host.shownIcon? =
        some Catalogue.plain.pointer ∧
    ((blank 0 true .plain).run [.create {}, installed, displayed]).host.shownIcon? =
        some Catalogue.plain.pointer := by
  decide +kernel

end Session

end ScreenPointer
