import Convergence.Logging.Logger
import Convergence.Proofs.Settings.Blame
import Convergence.Proofs.Text.LowerCase

/-! The names of levels. A name is put into the small letters of every script before it is looked
up, and still a level has no names but its spellings in ASCII letters. Settings are refused for
their level exactly where a logger is. -/
namespace Convergence

namespace Level

variable {s : String} {level : Level}

/-- The name in small letters. -/
def smallName : Level → String
  | trace => "trace"
  | debug => "debug"
  | info => "info"
  | warn => "warn"
  | error => "error"

theorem ofSmallName?_smallName (level : Level) : ofSmallName? level.smallName = some level := by
  cases level <;> rfl

theorem ofSmallName?_eq_some : ofSmallName? s = some level ↔ s = level.smallName := by
  constructor
  · intro h
    unfold ofSmallName? at h
    split at h <;> cases h <;> rfl
  · rintro rfl
    exact ofSmallName?_smallName level

theorem isAlpha_of_mem_smallName (level : Level) : ∀ c ∈ level.smallName.toList, c.isAlpha := by
  cases level <;> simp [smallName]

/-- The k is in no name of a level. It would be written with the Kelvin sign, too. -/
theorem ascii_smallName (level : Level) :
    (∀ c ∈ level.smallName.toList, c.toNat < 0x80) ∧ 'k' ∉ level.smallName.toList := by
  cases level <;> simp [smallName]

theorem ofName?_eq_some : ofName? s = some level ↔ s.map Char.toLower = level.smallName := by
  obtain ⟨hascii, hk⟩ := ascii_smallName level
  unfold ofName?
  rw [ofSmallName?_eq_some, Text.lower_eq_iff hascii hk, ← String.toList_inj, String.toList_map]

theorem ofName?_eq_none :
    ofName? s = none ↔ ∀ level : Level, s.map Char.toLower ≠ level.smallName := by
  simp only [Option.eq_none_iff_forall_ne_some, ne_eq, ofName?_eq_some]

theorem letters_of_ofName? (h : ofName? s = some level) :
    s.length = level.smallName.length ∧ ∀ c ∈ s.toList, c.isAlpha := by
  rw [ofName?_eq_some, ← String.toList_inj, String.toList_map] at h
  constructor
  · rw [← String.length_toList, ← String.length_toList, ← h, List.length_map]
  · intro c hc
    rw [← Char.isAlpha_toLower_eq_isAlpha]
    exact isAlpha_of_mem_smallName level _ (h ▸ List.mem_map_of_mem hc)

end Level

namespace Logger

variable {taken : Bool} {settings : LogSettings} {rules : Option String} {name : String}

theorem ofSettings_eq_invalidLevel :
    ofSettings taken settings rules = .error (.invalidLevel name) ↔
      name = settings.level ∧ Level.ofName? settings.level = none := by
  unfold ofSettings
  cases Level.ofName? settings.level <;> cases taken <;> simp [eq_comm]

theorem ofSettings_error {e : LoggerError} (h : ofSettings taken settings rules = .error e) :
    e = .invalidLevel settings.level ∨ taken = true ∧ e = .taken := by
  unfold ofSettings at h
  cases hlevel : Level.ofName? settings.level <;> cases taken <;> simp_all

end Logger

namespace Settings

variable {s : Settings} {name : String}

theorem not_breaks_invalidLevel {p : Profile} {told : String} :
    ¬p.Breaks told (.invalidLevel name) := nofun

theorem validated_eq_invalidLevel (hspace : ¬s.Blank) :
    s.validated = .error (.invalidLevel name) ↔
      name = s.logging.level ∧ Level.ofName? s.logging.level = none := by
  rw [validated_eq_error, fault?_eq_some]
  constructor
  · rintro (- | ⟨-, hlevel⟩ | ⟨-, -, hfirst⟩)
    · exact ⟨rfl, hlevel⟩
    · obtain ⟨p, -, hbreaks⟩ := hfirst.told
      exact absurd hbreaks not_breaks_invalidLevel
  · rintro ⟨rfl, hlevel⟩
    exact .level hspace hlevel

end Settings

/-- A text names a level if it is the level's name but for the case of ASCII letters: it has as
many characters and letters only. For any other the settings are refused, and so is a logger,
whether or not there is one already; both tell the level as it was written. -/
theorem levels_have_ascii_names_only :
    (∀ s level, Level.ofName? s = some level ↔ s.map Char.toLower = level.smallName) ∧
      (∀ s level, Level.ofName? s = some level →
        s.length = level.smallName.length ∧ ∀ c ∈ s.toList, c.isAlpha) ∧
      ∀ s : Settings, ¬s.Blank → ∀ taken rules,
        (∀ name, s.validated = .error (.invalidLevel name) ↔
          Logger.ofSettings taken s.logging rules = .error (.invalidLevel name)) ∧
        (∀ name, s.validated = .error (.invalidLevel name) ↔ name = s.logging.level ∧
          ∀ level : Level, s.logging.level.map Char.toLower ≠ level.smallName) ∧
        ∀ e, Logger.ofSettings taken s.logging rules = .error e →
          e = .invalidLevel s.logging.level ∨ taken = true ∧ e = .taken := by
  refine ⟨fun _ _ => Level.ofName?_eq_some, fun _ _ => Level.letters_of_ofName?, ?_⟩
  intro s hspace taken rules
  refine ⟨fun name => ?logger, fun name => ?level, fun _ => Logger.ofSettings_error⟩
  case logger =>
    rw [Settings.validated_eq_invalidLevel hspace, Logger.ofSettings_eq_invalidLevel]
  case level =>
    rw [Settings.validated_eq_invalidLevel hspace, Level.ofName?_eq_none]

/-- The dotless i is a small letter of its own, and a blank is no letter. -/
theorem dotless_info_is_no_level :
    let written (level : String) : Settings :=
      { Settings.standard with logging := { LogSettings.standard with level } }
    Level.ofName? "wARn" = some .warn ∧
      ("wARn".length = Level.warn.smallName.length ∧ ∀ c ∈ "wARn".toList, c.isAlpha) ∧
      (∀ level, ¬(written level).Blank) ∧
      (written "ınfo").validated = .error (.invalidLevel "ınfo") ∧
      Logger.ofSettings true (written "info ").logging none = .error (.invalidLevel "info ") := by
  intro written
  obtain ⟨hnames, hletters, hrefused⟩ := levels_have_ascii_names_only
  have hwarn : Level.ofName? "wARn" = some .warn := (hnames _ _).mpr (by decide +kernel)
  have hspace (level : String) : ¬(written level).Blank := by
    rw [← Settings.trim_isEmpty_iff]
    change ¬(Text.trimChars "default".toList).isEmpty = true
    decide
  obtain ⟨-, hdotless, -⟩ := hrefused (written "ınfo") (hspace _) true none
  obtain ⟨hlogger, hblank, -⟩ := hrefused (written "info ") (hspace _) true none
  refine ⟨hwarn, hletters _ _ hwarn, hspace, (hdotless _).mpr ⟨rfl, ?_⟩,
    (hlogger _).mp ((hblank _).mpr ⟨rfl, ?_⟩)⟩
  · intro level
    cases level <;> decide +kernel
  · intro level
    cases level <;> decide +kernel

end Convergence
