/-
RealmAdmin.Proofs.Config.Load — which settings of a file the environment hides.

Settings that the environment overrides are gone once it has overridden them
(`agreesUnder_iff`), and what is loaded depends on no more than what is left and on the
files that exist (`load_of_holds`, `locate_congr`). The one exception is the port: a file
is judged before it is overridden, and a port of zero is refused then, also where the
environment has another one.
-/
import RealmAdmin.Config.Load

namespace RealmAdmin.Config

/-! ## Judging settings -/

/-- What is wrong with the classes of generated passwords. -/
def validateClasses (classes : List ClassSettings) : Except ConfigFault Unit :=
  if classes.isEmpty then .error .noClasses else classes.forM ClassSettings.validate

variable {c c' : Config} {classes : List ClassSettings} {env : String → Option String}

theorem validate_eq (c : Config) :
    c.validate = if c.port = some 0 then .error .zeroPort else validateClasses c.classes := rfl

-- the text of a fault of the port starts with an `s`, and of any other with a `p`

theorem emptyCharset_ne_zeroPort (frequency : UInt32) :
    ConfigFault.emptyCharset frequency ≠ .zeroPort := by
  intro h
  have hfirst := congrArg (·.toList.head?) (ConfigFault.invalid.inj h)
  simp at hfirst

theorem notAscii_ne_zeroPort (charset : String) : ConfigFault.notAscii charset ≠ .zeroPort := by
  intro h
  have hfirst := congrArg (·.toList.head?) (ConfigFault.invalid.inj h)
  simp at hfirst

theorem validate_class_ne_zeroPort (s : ClassSettings) : s.validate ≠ .error .zeroPort := by
  unfold ClassSettings.validate
  split
  · exact fun h => emptyCharset_ne_zeroPort _ (Except.error.inj h)
  split
  · exact fun h => notAscii_ne_zeroPort _ (Except.error.inj h)
  · nofun

/-- A fault of the classes is the fault of one of them. -/
theorem exists_of_forM_validate {fault : ConfigFault}
    (h : classes.forM ClassSettings.validate = .error fault) :
    ∃ s ∈ classes, s.validate = .error fault := by
  induction classes with
  | nil => cases h
  | cons s rest ih =>
    rw [List.forM_eq_forM, List.forM_cons] at h
    cases hs : s.validate with
    | error other =>
      rw [hs] at h
      cases h
      exact ⟨s, List.mem_cons_self, hs⟩
    | ok u =>
      rw [hs] at h
      obtain ⟨s', hmem, hs'⟩ := ih h
      exact ⟨s', List.mem_cons_of_mem s hmem, hs'⟩

theorem validateClasses_ne_zeroPort : validateClasses classes ≠ .error .zeroPort := by
  unfold validateClasses
  split
  · exact fun h => absurd (Except.error.inj h) (by decide)
  · intro h
    obtain ⟨s, -, hs⟩ := exists_of_forM_validate h
    exact validate_class_ne_zeroPort s hs

/-! ## Overriding -/

/-- Whether settings differ only where the environment overrides them. -/
structure AgreesUnder (env : String → Option String) (c c' : Config) : Prop where
  client : env "KADM5_CLIENT" = none → c.client = c'.client
  realm : env "KADM5_REALM" = none → c.realm = c'.realm
  adminServer : env "KADM5_ADMIN_SERVER" = none → c.adminServer = c'.adminServer
  port : (env "KADM5_PORT").bind Text.readPort? = none → c.port = c'.port
  cache : env "KRB5CCNAME" = none → c.cache = c'.cache
  defaultRealm : env "KADM5_DEFAULT_REALM" = none → c.defaultRealm = c'.defaultRealm
  realmServers : c.realmServers = c'.realmServers
  classes : c.classes = c'.classes

theorem or_eq_or_iff {α : Type} {top a b : Option α} :
    top.or a = top.or b ↔ (top = none → a = b) := by
  cases top <;> simp

/-- Settings that differ only where the environment overrides them are the settings that
it makes the same. -/
theorem agreesUnder_iff : AgreesUnder env c c' ↔ c.override env = c'.override env := by
  simp only [override, mk.injEq, or_eq_or_iff]
  constructor
  · intro h
    exact ⟨h.client, h.realm, h.adminServer, h.port, h.cache, h.defaultRealm, h.realmServers,
      h.classes⟩
  · rintro ⟨hclient, hrealm, hserver, hport, hcache, hdefault, hservers, hclasses⟩
    exact ⟨hclient, hrealm, hserver, hport, hcache, hdefault, hservers, hclasses⟩

/-! ## Loading -/

/-- Whether a file holds the text of these settings, valid or not. -/
def Holds (content : Option ByteArray) (c : Config) : Prop :=
  ∃ text, content.bind String.fromUTF8? = some text ∧ ofText text = .ok c

variable {explicit : Option String} {files files' : String → Option ByteArray} {path : String}

/-- Which file is taken depends on which files are there, and not on what they hold. -/
theorem locate_congr (h : ∀ path, (files path).isSome = (files' path).isSome) :
    locate explicit files env = locate explicit files' env := by
  simp only [locate, h]

/-- Settings without a fault, where the classes are judged before the port. -/
def judge (c : Config) : Except ConfigFault Config := do
  validateClasses c.classes
  if c.port = some 0 then .error .zeroPort else return c

/-- A file with settings that contradict themselves is no better than none. -/
theorem ofFile_of_holds {content : Option ByteArray} (h : Holds content c) :
    ofFile content = do
      c.validate
      return c := by
  obtain ⟨text, hbytes, htext⟩ := h
  rw [ofFile, hbytes]
  simp only [htext]
  rfl

/-- What is loaded from a file: nothing where its own port is zero, whatever the
environment has for a port, and otherwise what the environment leaves of its settings. -/
theorem load_of_holds (hpath : locate explicit files env = some path)
    (hc : Holds (files path) c) : load explicit files env =
      if c.port = some 0 then .error .zeroPort else (c.override env).judge := by
  have hclasses : (c.override env).classes = c.classes := rfl
  rw [load, hpath]
  simp only [ofFile_of_holds hc, validate_eq, judge, hclasses]
  by_cases hzero : c.port = some 0
  · simp [hzero, bind, Except.bind]
  · cases hvalid : validateClasses c.classes with
    | error fault => simp [hzero, bind, Except.bind]
    | ok u =>
      by_cases hport : (c.override env).port = some 0 <;>
        simp [hzero, hclasses, hvalid, hport, bind, Except.bind, pure, Except.pure]

theorem judge_eq_zeroPort_iff :
    c.judge = .error .zeroPort ↔ c.port = some 0 ∧ validateClasses c.classes = .ok () := by
  rw [judge]
  cases hclasses : validateClasses c.classes with
  | error fault =>
    have hfault : fault ≠ .zeroPort := by
      rintro rfl
      exact validateClasses_ne_zeroPort hclasses
    simpa [bind, Except.bind] using hfault
  | ok u => by_cases hport : c.port = some 0 <;> simp [hport, bind, Except.bind, pure, Except.pure]

/-- If settings agree except where the environment overrides them, and only the port of
the one is zero, the environment has a port. -/
theorem AgreesUnder.override_port (h : AgreesUnder env c c') (hne : c.port ≠ c'.port) :
    (c.override env).port = (env "KADM5_PORT").bind Text.readPort? := by
  cases hport : (env "KADM5_PORT").bind Text.readPort? with
  | none => exact absurd (h.port hport) hne
  | some port => rw [override, hport, Option.some_or]

/-- **Overridden settings** of two files that may differ in them and nowhere else. They
make no difference to what is loaded, unless the port of one file is zero and that of the
other is not: then the file with the zero is refused, though the environment has a port to
put in its place, and the other one is not, or for reasons of its own. -/
theorem overridden_settings (hfiles : ∀ path, (files path).isSome = (files' path).isSome)
    (hpath : locate explicit files env = some path)
    (hc : Holds (files path) c) (hc' : Holds (files' path) c') (hagree : AgreesUnder env c c') :
    (load explicit files env = load explicit files' env ↔
      (c.port = some 0 ↔ c'.port = some 0) ∨
        ((env "KADM5_PORT").bind Text.readPort? = some 0 ∧ validateClasses c.classes = .ok ())) ∧
    (c.port = some 0 → load explicit files env = .error .zeroPort) ∧
    (c.port ≠ some 0 → load explicit files env = (c.override env).judge) := by
  have hsame : c.override env = c'.override env := agreesUnder_iff.mp hagree
  have hload := load_of_holds hpath hc
  have hload' := load_of_holds (locate_congr hfiles ▸ hpath) hc'
  rw [← hsame] at hload'
  refine ⟨?_, fun hzero => by rw [hload, if_pos hzero], fun hzero => by rw [hload, if_neg hzero]⟩
  have hjudge (hne : c.port ≠ c'.port) : (c.override env).judge = .error .zeroPort ↔
      (env "KADM5_PORT").bind Text.readPort? = some 0 ∧ validateClasses c.classes = .ok () := by
    rw [judge_eq_zeroPort_iff, hagree.override_port hne]
    rfl
  rw [hload, hload']
  by_cases hzero : c.port = some 0 <;> by_cases hzero' : c'.port = some 0
  · simp [hzero, hzero']
  · have hne : c.port ≠ c'.port := fun h => hzero' (h ▸ hzero)
    rw [if_pos hzero, if_neg hzero', eq_comm, hjudge hne]
    simp [hzero, hzero']
  · have hne : c.port ≠ c'.port := fun h => hzero (h ▸ hzero')
    rw [if_neg hzero, if_pos hzero', hjudge hne]
    simp [hzero, hzero']
  · simp [hzero, hzero']

/-! ### Two files and a variable -/

/-- One file in the working directory, with a text. -/
def workingFile (text : String) (path : String) : Option ByteArray :=
  if path = "kadm5.toml" then some text.toUTF8 else none

/-- An environment that has a port and nothing else. -/
def usualPort (name : String) : Option String :=
  if name = "KADM5_PORT" then some "749" else none

theorem holds_workingFile {text : String} (h : ofText text = .ok c) :
    Holds (workingFile text "kadm5.toml") c := by
  refine ⟨text, ?_, h⟩
  rw [workingFile, if_pos rfl, Option.bind_some, String.fromUTF8?, String.toUTF8_eq_toByteArray,
    dif_pos text.isValidUTF8]
  rfl

theorem agreesUnder_usualPort (port port' : UInt16) :
    AgreesUnder usualPort { port := some port } { port := some port' } where
  client _ := rfl
  realm _ := rfl
  adminServer _ := rfl
  port h := absurd h (by decide)
  cache _ := rfl
  defaultRealm _ := rfl
  realmServers := rfl
  classes := rfl

-- each text is taken apart first, since a text does not compute

theorem ofText_port_zero : ofText "[session]\nport = 0\n" = .ok { port := some 0 } := by
  have htext : "[session]\nport = 0\n".toList = ['[', 's', 'e', 's', 's', 'i', 'o', 'n', ']', '\n',
    'p', 'o', 'r', 't', ' ', '=', ' ', '0', '\n'] := rfl
  rw [ofText, Toml.parse, htext]
  rfl

theorem ofText_port_one : ofText "[session]\nport = 1\n" = .ok { port := some 1 } := by
  have htext : "[session]\nport = 1\n".toList = ['[', 's', 'e', 's', 's', 'i', 'o', 'n', ']', '\n',
    'p', 'o', 'r', 't', ' ', '=', ' ', '1', '\n'] := rfl
  rw [ofText, Toml.parse, htext]
  rfl

theorem ofText_port_usual : ofText "[session]\nport = 749\n" = .ok { port := some 749 } := by
  have htext : "[session]\nport = 749\n".toList = ['[', 's', 'e', 's', 's', 'i', 'o', 'n', ']',
    '\n', 'p', 'o', 'r', 't', ' ', '=', ' ', '7', '4', '9', '\n'] := rfl
  rw [ofText, Toml.parse, htext]
  rfl

/-- Two ports that the environment overrides. -/
theorem overridden_settings_of_ports :
    let one := workingFile "[session]\nport = 1\n"
    let usual := workingFile "[session]\nport = 749\n"
    (∀ path, (one path).isSome = (usual path).isSome) ∧
      locate none one usualPort = some "kadm5.toml" ∧
      Holds (one "kadm5.toml") { port := some 1 } ∧
      Holds (usual "kadm5.toml") { port := some 749 } ∧
      AgreesUnder usualPort { port := some 1 } { port := some 749 } ∧
      load none one usualPort = load none usual usualPort ∧
      load none one usualPort = .ok { port := some 749 } := by
  intro one usual
  have hfiles (path : String) : (one path).isSome = (usual path).isSome := by
    simp only [one, usual, workingFile]
    split <;> rfl
  have hpath : locate none one usualPort = some "kadm5.toml" := rfl
  have hone := holds_workingFile ofText_port_one
  have husual := holds_workingFile ofText_port_usual
  have hagree := agreesUnder_usualPort 1 749
  obtain ⟨hsame, -, hjudge⟩ := overridden_settings hfiles hpath hone husual hagree
  exact ⟨hfiles, hpath, hone, husual, hagree, hsame.mpr (.inl (by decide)), hjudge (by decide)⟩

/-- A port of zero that the environment overrides, and that is refused all the same. -/
theorem overridden_port_refused :
    let zero := workingFile "[session]\nport = 0\n"
    let usual := workingFile "[session]\nport = 749\n"
    Holds (zero "kadm5.toml") { port := some 0 } ∧
      Holds (usual "kadm5.toml") { port := some 749 } ∧
      AgreesUnder usualPort { port := some 0 } { port := some 749 } ∧
      load none zero usualPort = .error .zeroPort ∧
      load none usual usualPort = .ok { port := some 749 } := by
  intro zero usual
  have hpath : locate none zero usualPort = some "kadm5.toml" := rfl
  have hpath' : locate none usual usualPort = some "kadm5.toml" := rfl
  have hzero := holds_workingFile ofText_port_zero
  have husual := holds_workingFile ofText_port_usual
  exact ⟨hzero, husual, agreesUnder_usualPort 0 749, load_of_holds hpath hzero,
    load_of_holds hpath' husual⟩

end RealmAdmin.Config
