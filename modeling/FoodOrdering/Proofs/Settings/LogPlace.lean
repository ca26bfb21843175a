import FoodOrdering.Settings.Load
import FoodOrdering.Settings.Validity
import FoodOrdering.Proofs.Except
import FoodOrdering.Proofs.Files.Place
import Mathlib.Data.List.Basic

/-!
# Where the log goes

The name of an accepted log file has no two points in a row, so the file lies in the directory of
the log or below it.  That directory is taken from the configuration directory and is not judged:
it stays there exactly if it neither starts at the root nor leads above.
-/

namespace FoodOrdering.Settings

open FoodOrdering.Path

theorem hasTwoPoints_of_isInfix {text : List Char} (h : ['.', '.'] <:+: text) :
    hasTwoPoints text = true := by
  induction text with
  | nil => exact absurd (List.infix_nil.1 h) (by decide)
  | cons c rest ih =>
      rcases List.infix_cons_iff.1 h with hfront | hrest
      · obtain ⟨behind, hbehind⟩ := hfront
        rw [← hbehind]
        rfl
      · unfold hasTwoPoints
        split
        next heq => cases heq
        next => rfl
        next heq =>
          cases heq
          exact ih hrest

/-- The name of a log file that may be used. -/
structure IsLogFile (file : String) : Prop where
  relative : isAbsolute file = false
  straight : ∀ part ∈ Text.segments '/' file.toList, part ≠ ['.', '.']

theorem Logging.isLogFile_of_validate {logging : Logging} (h : logging.validate = .ok ())
    {file : String} (hfile : logging.file = some file) : IsLogFile file := by
  unfold validate at h
  rw [hfile, Option.any_some] at h
  split at h
  · cases h
  next haccepted =>
    rw [Bool.or_eq_true, not_or, Bool.not_eq_true, Bool.not_eq_true] at haccepted
    refine ⟨haccepted.1, ?_⟩
    rintro part hpart rfl
    rcases List.infix_cons_iff.1 (Text.isInfix_of_mem_segments hpart) with hfront | hinfix
    · obtain ⟨behind, hbehind⟩ := hfront
      cases hbehind
    · rw [hasTwoPoints_of_isInfix hinfix] at haccepted
      cases haccepted.2

/-- The log is what is judged last. -/
theorem logging_of_validate {settings : Settings} (h : settings.validate = .ok ()) :
    settings.logging.validate = .ok () := by
  obtain ⟨_, -, h⟩ := bind_eq_ok_iff.1 h
  obtain ⟨_, -, h⟩ := bind_eq_ok_iff.1 h
  obtain ⟨_, -, h⟩ := bind_eq_ok_iff.1 h
  obtain ⟨_, -, h⟩ := bind_eq_ok_iff.1 h
  obtain ⟨_, -, h⟩ := bind_eq_ok_iff.1 h
  exact h

theorem IsLogFile.isWithin {file : String} (h : IsLogFile file) (directory : String) :
    (Place.ofPath directory).IsWithin (Place.ofPath (join directory file)) := by
  rw [Place.ofPath_join h.relative]
  exact Place.walk_of_straight h.straight

variable {settings : Settings} {file : String}

theorem logPath_of_file (hfile : settings.logging.file = some file) (files : FileTree)
    (place : String) :
    settings.logPath files place =
      if files.hasRoom (settings.logDirectory place) then
        .ok (some (join (settings.logDirectory place) file))
      else .error (.files (settings.logDirectory place)) := by
  rw [logPath, hfile]

/-- Where the log of accepted settings goes: its file lies in its directory or below it, whatever
the configuration directory is.  Both lie in the configuration directory or below it, whatever that
is, if and only if the name of the directory descends. -/
theorem log_follows_its_directory (settings : Settings) (hvalid : settings.validate = .ok ())
    (file : String) (hfile : settings.logging.file = some file) :
    (∀ files place path, settings.logPath files place = .ok path →
      path = some (join (settings.logDirectory place) file)) ∧
    (∀ place, (Place.ofPath (settings.logDirectory place)).IsWithin
      (Place.ofPath (join (settings.logDirectory place) file))) ∧
    ((∀ place, (Place.ofPath place).IsWithin (Place.ofPath (settings.logDirectory place)) ∧
        (Place.ofPath place).IsWithin
          (Place.ofPath (join (settings.logDirectory place) file))) ↔
      Descends settings.logging.directory) := by
  have hstays := Logging.isLogFile_of_validate (logging_of_validate hvalid) hfile
  refine ⟨?_, fun place => hstays.isWithin _, ?_, ?_⟩
  · intro files place path hpath
    rw [logPath_of_file hfile] at hpath
    split at hpath
    · exact (Except.ok.inj hpath).symm
    · cases hpath
  · intro h
    exact Place.forall_isWithin_join_iff.1 fun place => (h place).1
  · intro hdescends place
    have hdirectory := Place.isWithin_join_of_descends hdescends place
    exact ⟨hdirectory, hdirectory.trans (hstays.isWithin _)⟩

/-- The usual directory descends. -/
theorem log_stays_with_usual_directory :
    let settings : Settings := { logging := { file := some "server.log" } }
    settings.validate = .ok () ∧ settings.logging.file = some "server.log" ∧
      ∀ place, (Place.ofPath place).IsWithin (Place.ofPath (settings.logDirectory place)) ∧
        (Place.ofPath place).IsWithin
          (Place.ofPath (join (settings.logDirectory place) "server.log")) := by
  intro settings
  have hvalid : settings.validate = .ok () := by decide +kernel
  refine ⟨hvalid, rfl, ?_⟩
  exact (log_follows_its_directory settings hvalid "server.log" rfl).2.2.2 (by decide +kernel)

/-- A directory beside the configuration directory is accepted. -/
theorem log_leaves_configuration_directory :
    let settings : Settings :=
      { logging := { file := some "server.log", directory := "../elsewhere" } }
    let files : FileTree := .ofEntries [] [["srv"], ["srv", "conf"]]
    settings.validate = .ok () ∧
      settings.logPath files "/srv/conf" = .ok (some "/srv/conf/../elsewhere/server.log") ∧
      Place.ofPath (settings.logDirectory "/srv/conf") =
        ⟨true, 0, ["srv".toList, "elsewhere".toList]⟩ ∧
      ¬ (Place.ofPath "/srv/conf").IsWithin (Place.ofPath (settings.logDirectory "/srv/conf")) ∧
      ¬ (Place.ofPath "/srv/conf").IsWithin
        (Place.ofPath "/srv/conf/../elsewhere/server.log") := by
  intro settings files
  have hroom : files.hasRoom (settings.logDirectory "/srv/conf") = true := by decide +kernel
  have hpath : join (settings.logDirectory "/srv/conf") "server.log" =
      "/srv/conf/../elsewhere/server.log" := by decide +kernel
  refine ⟨by decide +kernel, ?_, by decide +kernel, by decide +kernel, by decide +kernel⟩
  rw [logPath_of_file rfl, if_pos hroom, hpath]

end FoodOrdering.Settings
