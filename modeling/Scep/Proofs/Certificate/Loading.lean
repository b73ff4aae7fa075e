import Scep.Proofs.Certificate.Store

/-!
What comes of loading the files of a store.

A store comes about if there are certificates in all files.  Otherwise loading
stops at the first file without any.  A file that is absent and one that holds
something else are told as failures to load it, with its path.  Three other ways
in which a file cannot be read are not: what stands in the way of reading is then
what is reported.  The same goes for a first certificate whose owner has no name
that can be shown.
-/

namespace Scep

/-! ### Disks -/

inductive Entry where
  | file (content : Octets)
  | directory
  | absent
  | throughFile
  | unreadable (reason : String)
  | unnameable
  deriving DecidableEq, Repr

def Entry.read (path : String) : Entry → Except Fault Octets
  | file content => .ok content
  | directory => .error (.isDirectory path)
  | absent => .error (.fileNotFound path)
  | throughFile => .error (.notDirectory path)
  | unreadable reason => .error (.plain .os reason)
  | unnameable => .error (.plain .value "embedded null byte")

def Entry.load (path : String) (entry : Entry) :
    Except Fault (Certificate × List Certificate) := do
  let content ← entry.read path
  (Certificate.Store.ofPem content).mapError Certificate.Store.Flaw.fault

/-- The reason that is told for there being no certificates.  None is told of what
cannot be read although there is something, and none of a certificate whose version
there is not. -/
def Entry.reason? : Entry → Option String
  | file content =>
    match Certificate.Store.ofPem content with
    | .ok _ | .error (.version _) => none
    | .error flaw => some flaw.fault.message
  | absent => some "file not found"
  | unnameable => some "embedded null byte"
  | directory | throughFile | unreadable _ => none

abbrev Disk := String → Entry

def Disk.read (disk : Disk) (path : String) : Except Fault Octets := (disk path).read path

def Files.entry (files : Files) : Disk := fun path =>
  if path.toList.contains '\x00' then .unnameable
  else
    match files.find path with
    | .ok (.file content) => .file content
    | .ok _ => .directory
    | .error .missing => .absent
    | .error .throughFile => .throughFile

private theorem Files.read_entry (files : Files) : files.entry.read = files.read := by
  funext path
  unfold Disk.read Files.entry Files.read
  by_cases named : path.toList.contains '\x00' = true
  · rw [if_pos named, if_pos named]
    rfl
  · rw [if_neg named, if_neg named]
    cases files.find path with
    | error stray => cases stray <;> rfl
    | ok place => cases place <;> rfl

/-! ### Certificates on a disk -/

namespace Disk

variable {disk : Disk} {path : String} {certificates : Certificate × List Certificate}

def Holds (disk : Disk) (path : String) (certificates : Certificate × List Certificate) : Prop :=
  ∃ content, disk path = .file content ∧ Certificate.Store.ofPem content = .ok certificates

/-- Of some paths, one is the first without certificates. -/
structure StopsAt (disk : Disk) (paths : List String) (last : String) : Prop where
  first : ∃ before after, paths = before ++ last :: after ∧
    ∀ earlier ∈ before, ∃ certificates, disk.Holds earlier certificates
  without : ∀ certificates, ¬disk.Holds last certificates

end Disk

namespace Certificate.Store

variable {disk : Disk} {settings : Settings.Ca} {path last : String}
  {file : Certificate × List Certificate} {others : List (Certificate × List Certificate)}

private theorem loadFileBy_read (disk : Disk) (path : String) :
    loadFileBy disk.read path = ((disk path).load path).mapError (refusal path) := rfl

theorem loadFileBy_eq_ok_iff {certificates : Certificate × List Certificate} :
    loadFileBy disk.read path = .ok certificates ↔ disk.Holds path certificates := by
  rw [loadFileBy_read, mapError_eq_ok, Disk.Holds]
  constructor
  · intro loaded
    obtain ⟨content, read, parsed⟩ := bind_eq_ok loaded
    cases found : disk path with
    | file own =>
        rw [found] at read
        cases read
        exact ⟨content, rfl, mapError_eq_ok.mp parsed⟩
    | _ =>
        rw [found] at read
        cases read
  · rintro ⟨content, found, parsed⟩
    rw [found]
    exact mapError_eq_ok.mpr parsed

private theorem loadFileBy_told {reason : String} (told : (disk path).reason? = some reason) :
    ∃ origin, loadFileBy disk.read path =
      .error ⟨.failure (.certificateLoad path reason), some origin⟩ := by
  rw [loadFileBy_read]
  cases found : disk path with
  | file content =>
      rw [found] at told
      have loads : (Entry.file content).load path = (ofPem content).mapError Flaw.fault := rfl
      simp only [Entry.reason?] at told
      cases read : ofPem content with
      | ok held =>
          simp only [read] at told
          cases told
      | error flaw =>
          rw [loads, read]
          cases flaw with
          | version number =>
              simp only [read] at told
              cases told
          | blocks flaw =>
              simp only [read] at told
              cases told
              exact ⟨_, rfl⟩
          | notACertificate =>
              simp only [read] at told
              cases told
              exact ⟨_, rfl⟩
  | absent =>
      rw [found] at told
      cases told
      exact ⟨.fileNotFound path, rfl⟩
  | unnameable =>
      rw [found] at told
      cases told
      exact ⟨.plain .value "embedded null byte", rfl⟩
  | _ =>
      rw [found] at told
      cases told

private theorem load_untold {entry : Entry} (untold : entry.reason? = none) :
    (∃ certificates, entry.load path = .ok certificates) ∨
      ∃ fault, entry.load path = .error fault ∧ refusal path fault = ⟨fault, none⟩ ∧
        ∀ failure, fault ≠ .failure failure := by
  cases entry with
  | file content =>
      have loads : (Entry.file content).load path = (ofPem content).mapError Flaw.fault := rfl
      simp only [Entry.reason?] at untold
      cases read : ofPem content with
      | ok held =>
          rw [read] at loads
          exact Or.inl ⟨held, loads⟩
      | error flaw =>
          rw [read] at loads
          simp only [read] at untold
          cases flaw with
          | version number =>
              exact Or.inr ⟨.invalidVersion number, loads, rfl, fun _ same => by cases same⟩
          | blocks flaw => cases untold
          | notACertificate => cases untold
  | absent => cases untold
  | unnameable => cases untold
  | _ => exact Or.inr ⟨_, rfl, rfl, fun _ same => by cases same⟩

private theorem loadFileBy_untold (without : ∀ certificates, ¬disk.Holds path certificates)
    (untold : (disk path).reason? = none) :
    ∃ fault, (disk path).load path = .error fault ∧
      loadFileBy disk.read path = .error ⟨fault, none⟩ := by
  rcases load_untold untold with ⟨certificates, loaded⟩ | ⟨fault, failed, left, _⟩
  · refine absurd (loadFileBy_eq_ok_iff.mp ?_) (without certificates)
    rw [loadFileBy_read, loaded]
    rfl
  · refine ⟨fault, failed, ?_⟩
    rw [loadFileBy_read, failed]
    exact congrArg Except.error left

private theorem loadBy_of_holds (named : settings.certFile = some path)
    (holds : List.Forall₂ disk.Holds (path :: settings.chainFiles) (file :: others)) :
    loadBy disk.read settings = (subjectText file.1).map fun subject =>
      (ofFiles file others, .caLoaded subject (together (file :: others)).length) := by
  have loaded : (path :: settings.chainFiles).mapM (loadFileBy disk.read) = .ok (file :: others) :=
    mapM_eq_ok_iff.mpr (holds.imp fun _ _ => loadFileBy_eq_ok_iff.mpr)
  exact loadBy_of_loaded named loaded

private theorem loadBy_of_stopsAt {raised : Raised} (named : settings.certFile = some path)
    (stops : disk.StopsAt (path :: settings.chainFiles) last)
    (failed : loadFileBy disk.read last = .error raised) :
    loadBy disk.read settings = .error raised := by
  obtain ⟨before, after, split, earlier⟩ := stops.first
  have loads : ∀ item ∈ before, ∃ result, loadFileBy disk.read item = .ok result := by
    intro item member
    obtain ⟨certificates, holds⟩ := earlier item member
    exact ⟨certificates, loadFileBy_eq_ok_iff.mpr holds⟩
  refine loadBy_of_failed named ?_
  rw [split, mapM_eq_error loads failed]

/-- There are certificates in all files, or there is a first one without any. -/
theorem holds_or_stopsAt (disk : Disk) (paths : List String) :
    (∃ held, List.Forall₂ disk.Holds paths held) ∨ ∃ last, disk.StopsAt paths last := by
  rcases mapM_cases (loadFileBy disk.read) paths with
    ⟨held, loaded⟩ | ⟨before, last, after, raised, split, earlier, failed⟩
  · exact Or.inl ⟨held, (mapM_eq_ok_iff.mp loaded).imp fun _ _ => loadFileBy_eq_ok_iff.mp⟩
  · refine Or.inr ⟨last, ⟨before, after, split, ?_⟩, ?_⟩
    · intro item member
      obtain ⟨certificates, own⟩ := earlier item member
      exact ⟨certificates, loadFileBy_eq_ok_iff.mp own⟩
    · intro certificates holds
      rw [loadFileBy_eq_ok_iff.mpr holds] at failed
      cases failed

/-! ### Outcomes -/

/-- What may come of loading: without a file of the authority that it is missing,
the store and its record if there are certificates in all files, and otherwise the
failure to load the first file without any. -/
inductive Documented (disk : Disk) (settings : Settings.Ca) :
    Except Raised (Store × Audit.Event) → Prop where
  | unset (unset : settings.certFile = none) :
      Documented disk settings (.error ⟨.failure (.missingSetting "ca.cert_file"), none⟩)
  | loaded (path : String) (file : Certificate × List Certificate)
      (others : List (Certificate × List Certificate)) (subject : String)
      (named : settings.certFile = some path)
      (holds : List.Forall₂ disk.Holds (path :: settings.chainFiles) (file :: others))
      (shown : subjectText file.1 = .ok subject) :
      Documented disk settings
        (.ok (ofFiles file others, .caLoaded subject (together (file :: others)).length))
  | refused (path last reason : String) (origin : Option Fault)
      (named : settings.certFile = some path)
      (stops : disk.StopsAt (path :: settings.chainFiles) last)
      (told : (disk last).reason? = some reason) :
      Documented disk settings (.error ⟨.failure (.certificateLoad last reason), origin⟩)

private theorem not_documented_of_untold {fault : Fault} (untold : (disk path).reason? = none)
    (failed : (disk path).load path = .error fault) :
    ¬Documented disk settings (.error ⟨fault, none⟩) := by
  rcases @load_untold path _ untold with ⟨certificates, loaded⟩ | ⟨other, same, _, foreign⟩
  · rw [failed] at loaded
    cases loaded
  · rw [failed] at same
    cases same
    intro documented
    cases documented with
    | unset _ => exact foreign _ rfl
    | refused path last reason _ _ _ _ => exact foreign _ rfl

private theorem not_documented_of_subjectText {certificate : Certificate} {raised : Raised}
    (hidden : subjectText certificate = .error raised) :
    ¬Documented disk settings (.error raised) := by
  unfold subjectText at hidden
  intro documented
  split at hidden
  · cases hidden
  · cases hidden
    cases documented

/-- Loading comes to what is documented exactly if of the first file without
certificates, where there is one, the reason is told, and if the name of the
authority can be shown where there are certificates in all files.  Otherwise the
fault of loading the file, or that of reading the name, is left as it is.  No
record is made but that of a store. -/
theorem load_documented_iff (disk : Disk) (settings : Settings.Ca) :
    let outcome := loadBy disk.read settings
    (Documented disk settings outcome ↔
        ∀ path, settings.certFile = some path →
          (∀ last, disk.StopsAt (path :: settings.chainFiles) last →
            (disk last).reason? ≠ none) ∧
          ∀ file others, List.Forall₂ disk.Holds (path :: settings.chainFiles) (file :: others) →
            ∃ subject, subjectText file.1 = .ok subject) ∧
      (∀ path last, settings.certFile = some path →
        disk.StopsAt (path :: settings.chainFiles) last → (disk last).reason? = none →
        ∃ fault, (disk last).load last = .error fault ∧ outcome = .error ⟨fault, none⟩) ∧
      (∀ path file others, settings.certFile = some path →
        List.Forall₂ disk.Holds (path :: settings.chainFiles) (file :: others) →
        outcome = (subjectText file.1).map fun subject =>
          (ofFiles file others, .caLoaded subject (together (file :: others)).length)) ∧
      ∀ files : Files, load files settings = loadBy files.entry.read settings := by
  intro outcome
  have untold : ∀ path last, settings.certFile = some path →
      disk.StopsAt (path :: settings.chainFiles) last → (disk last).reason? = none →
      ∃ fault, (disk last).load last = .error fault ∧ outcome = .error ⟨fault, none⟩ := by
    intro path last named stops silent
    obtain ⟨fault, unloaded, failed⟩ := loadFileBy_untold stops.without silent
    exact ⟨fault, unloaded, loadBy_of_stopsAt named stops failed⟩
  have loaded : ∀ path file others, settings.certFile = some path →
      List.Forall₂ disk.Holds (path :: settings.chainFiles) (file :: others) →
      outcome = (subjectText file.1).map fun subject =>
        (ofFiles file others, .caLoaded subject (together (file :: others)).length) :=
    fun _ _ _ named holds => loadBy_of_holds named holds
  refine ⟨⟨fun documented path named => ⟨fun last stops silent => ?_, fun file others holds => ?_⟩,
    fun fine => ?_⟩, untold, loaded, fun files => ?_⟩
  · obtain ⟨fault, unloaded, left⟩ := untold path last named stops silent
    rw [left] at documented
    exact not_documented_of_untold silent unloaded documented
  · have left := loaded path file others named holds
    cases shown : subjectText file.1 with
    | ok subject => exact ⟨subject, rfl⟩
    | error raised =>
        rw [left, shown] at documented
        exact absurd documented (not_documented_of_subjectText shown)
  · cases named : settings.certFile with
    | none =>
        have missing : outcome = .error ⟨.failure (.missingSetting "ca.cert_file"), none⟩ := by
          simp only [outcome, loadBy, named]
          rfl
        rw [missing]
        exact .unset named
    | some path =>
        obtain ⟨tells, shows⟩ := fine path named
        rcases holds_or_stopsAt disk (path :: settings.chainFiles) with
          ⟨held, holds⟩ | ⟨last, stops⟩
        · cases held with
          | nil => cases holds
          | cons file others =>
              obtain ⟨subject, shown⟩ := shows file others holds
              rw [loaded path file others named holds, shown]
              exact .loaded path file others subject named holds shown
        · obtain ⟨reason, told⟩ := Option.ne_none_iff_exists'.mp (tells last stops)
          obtain ⟨origin, failed⟩ := loadFileBy_told told
          rw [show outcome = _ from loadBy_of_stopsAt named stops failed]
          exact .refused path last reason (some origin) named stops told
  · rw [Files.read_entry]
    rfl

/-- A directory in place of the file of the authority. -/
theorem load_directory :
    let files : Files := [(["d".toList, "ca.pem".toList], [])]
    let settings : Settings.Ca := ⟨some "d", []⟩
    load files settings = .error ⟨.isDirectory "d", none⟩ ∧
      ¬Documented files.entry settings (load files settings) := by
  intro files settings
  have left : load files settings = .error ⟨.isDirectory "d", none⟩ := by cbv
  rw [left]
  refine ⟨rfl, fun documented => ?_⟩
  cases documented

end Certificate.Store

end Scep
