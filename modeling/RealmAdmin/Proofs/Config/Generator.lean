/-
RealmAdmin.Proofs.Config.Generator — configurations have a generator of passwords.

The classes of generated passwords are judged in two places: where a configuration is
validated, which tells what is wrong with them, and where a generator is made of them.
The two look at a class in different orders, but find the same classes right
(`ClassSettings.validate_eq_ok`). So a configuration that was loaded has a generator, and
no connection is refused for its classes (`loaded_generator`).
-/
import RealmAdmin.Proofs.Config.Load
import RealmAdmin.Proofs.Password.Outcome

namespace RealmAdmin

/-! ## One class -/

theorem Text.bytes_eq_nil {s : String} : bytes s = [] ↔ s = "" := by
  rw [bytes, ← List.length_eq_zero_iff, ← String.utf8ByteSize_eq_zero_iff]
  rfl

/-- A class can be made if its charset is ASCII, and has a character if one is drawn. -/
theorem CharacterClass.exists_make_iff {s : ClassSettings} :
    (∃ c, make s = .ok c) ↔ s.isAscii = true ∧ (0 < s.frequency → s.bytes ≠ []) := by
  simp only [make_eq_ok]
  constructor
  · rintro ⟨c, hascii, hcharset, hfrequency⟩
    exact ⟨hascii, hcharset ▸ hfrequency ▸ c.drawable⟩
  · rintro ⟨hascii, hdrawable⟩
    exact ⟨⟨s.bytes, s.frequency, hdrawable⟩, hascii, rfl, rfl⟩

/-- A class is found right where it can be made. -/
theorem ClassSettings.validate_eq_ok {s : ClassSettings} :
    s.validate = .ok () ↔ ∃ c, CharacterClass.make s = .ok c := by
  have hbytes : s.bytes = [] ↔ s.charset.isEmpty = true :=
    Text.bytes_eq_nil.trans String.isEmpty_iff.symm
  rw [CharacterClass.exists_make_iff, Ne, hbytes]
  unfold validate
  split
  · next hempty => exact iff_of_false nofun fun h => h.2 hempty.1 hempty.2
  split
  · next hascii => exact iff_of_false nofun fun h => by simp [h.1] at hascii
  · next hempty hascii =>
    exact iff_of_true rfl ⟨by simpa using hascii, fun hpos hnil => hempty ⟨hpos, hnil⟩⟩

theorem PasswordGenerator.exists_ofSettings_iff {classes : List ClassSettings} :
    (∃ g, ofSettings classes = .ok g) ↔
      classes ≠ [] ∧ ∀ s ∈ classes, ∃ c, CharacterClass.make s = .ok c := by
  rw [← exists_mapM_ok_iff]
  simp only [ofSettings_eq_ok, make_eq_ok, ClassesOf, mapM_ok_iff]
  constructor
  · rintro ⟨g, made, hmade, hsome, -⟩
    exact ⟨mt (ClassesOf.eq_nil_iff hmade).mpr hsome, made, hmade⟩
  · rintro ⟨hsome, made, hmade⟩
    exact ⟨⟨made⟩, made, hmade, mt (ClassesOf.eq_nil_iff hmade).mp hsome, rfl⟩

/-! ## Configurations -/

namespace Config

variable {c : Config} {g : PasswordGenerator}

/-- Classes are found right where a generator can be made of them. -/
theorem validateClasses_eq_ok {classes : List ClassSettings} :
    validateClasses classes = .ok () ↔ ∃ g, PasswordGenerator.ofSettings classes = .ok g := by
  rw [PasswordGenerator.exists_ofSettings_iff]
  simp only [← ClassSettings.validate_eq_ok]
  unfold validateClasses
  cases classes with
  | nil => exact iff_of_false nofun fun h => h.1 rfl
  | cons s rest =>
    rw [if_neg (by simp), forM_ok_iff]
    exact (and_iff_right (List.cons_ne_nil s rest)).symm

theorem validate_eq_ok : c.validate = .ok () ↔
    c.port ≠ some 0 ∧ ∃ g, PasswordGenerator.ofSettings c.classes = .ok g := by
  rw [validate_eq, ← validateClasses_eq_ok]
  by_cases hport : c.port = some 0 <;> simp [hport]

/-- What is handed out after it was validated is valid. -/
theorem validate_of_validated {c' : Config} (h : (do c'.validate; return c') = .ok c) :
    c.validate = .ok () := by
  cases hvalid : c'.validate with
  | error fault => simp [hvalid] at h
  | ok u =>
    obtain rfl : c' = c := by simpa [hvalid] using h
    exact hvalid

theorem validate_of_ofFile {content : Option ByteArray} (h : ofFile content = .ok c) :
    c.validate = .ok () := by
  unfold ofFile at h
  split at h
  · next text _ =>
    cases htext : ofText text with
    | error fault => simp [htext] at h
    | ok c' =>
      rw [htext] at h
      exact validate_of_validated h
  · cases h

theorem validate_of_load {explicit : Option String} {files : String → Option ByteArray}
    {env : String → Option String} (h : load explicit files env = .ok c) :
    c.validate = .ok () := by
  unfold load at h
  split at h
  · next path _ =>
    cases hfile : ofFile (files path) with
    | error fault => simp [hfile] at h
    | ok stored =>
      rw [hfile] at h
      exact validate_of_validated h
  · exact validate_of_validated h

/-- Whether a configuration has a generator of passwords. Then the session is all that a
connection still needs. -/
def HasGenerator (c : Config) : Prop :=
  ∃ g, PasswordGenerator.ofSettings c.classes = .ok g ∧
    ∀ (σ : Type) (a : Authenticator σ) (credentials : Credentials),
      Connection.connect c a credentials = (⟨·, g⟩) <$> Session.establish c a credentials

theorem hasGenerator_of_validate (h : c.validate = .ok ()) : c.HasGenerator := by
  obtain ⟨-, g, hg⟩ := validate_eq_ok.mp h
  refine ⟨g, hg, fun σ a credentials => ?_⟩
  rw [Connection.connect, hg]
  rfl

/-- **What is found right has a generator.** A configuration whose port is not zero is
found right if and only if a generator can be made of its classes. So whatever the file
and the environment are, each configuration that is read or loaded has a generator, and
no connection with it is refused for its classes. -/
theorem loaded_generator :
    (∀ c : Config, c.port ≠ some 0 →
      (c.validate = .ok () ↔ ∃ g, PasswordGenerator.ofSettings c.classes = .ok g)) ∧
    (∀ content c, ofFile content = .ok c → c.HasGenerator) ∧
    ∀ explicit files env c, load explicit files env = .ok c → c.HasGenerator := by
  refine ⟨fun c hport => ?_, fun _ _ h => ?_, fun _ _ _ _ h => ?_⟩
  · rw [validate_eq_ok, and_iff_right hport]
  · exact hasGenerator_of_validate (validate_of_ofFile h)
  · exact hasGenerator_of_validate (validate_of_load h)

/-- A file, the same with a client that the environment names, the settings where there is
no file, and a class that is refused although nothing would be drawn from it. -/
theorem loaded_generator_of_file :
    let file := workingFile "[session]\nport = 749\n"
    let env (name : String) : Option String := if name = "KADM5_CLIENT" then some "ops" else none
    let stored : Config := { port := some 749 }
    let loaded : Config := { stored with client := some "ops" }
    let odd : Config := { classes := [⟨"é", 0⟩] }
    ofFile (file "kadm5.toml") = .ok stored ∧ stored.HasGenerator ∧
      load none file env = .ok loaded ∧ loaded.HasGenerator ∧
      load none (fun _ => none) (fun _ => none) = .ok {} ∧ HasGenerator {} ∧
      odd.validate = .error (.notAscii "é") ∧
      ¬ ∃ g, PasswordGenerator.ofSettings odd.classes = .ok g := by
  intro file env stored loaded odd
  obtain ⟨hagree, hread, hload⟩ := loaded_generator
  have hholds : Holds (file "kadm5.toml") stored := holds_workingFile ofText_port_usual
  have hstored : ofFile (file "kadm5.toml") = .ok stored := ofFile_of_holds hholds
  have hpath : locate none file env = some "kadm5.toml" := rfl
  have hloaded : load none file env = .ok loaded := load_of_holds hpath hholds
  have hnone : load none (fun _ => none) (fun _ => none) = .ok {} := rfl
  have hodd : odd.validate = .error (.notAscii "é") := rfl
  exact ⟨hstored, hread _ stored hstored, hloaded, hload _ _ _ loaded hloaded, hnone,
    hload _ _ _ {} hnone, hodd,
    fun hmade => nomatch hodd.symm.trans ((hagree odd (by decide)).mpr hmade)⟩

end Config

end RealmAdmin
