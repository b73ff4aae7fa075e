import Scep.Certificate.Store
import Scep.Proofs.Exchange.Outgoing
import Scep.Proofs.Sequence

/-!
The certificates of a store.

They are those of the files that the settings name, in the order of the settings,
and within a file in the order of its blocks.
-/

namespace Scep

namespace Certificate

private theorem der_of_ofDer? {octets : Octets} {certificate : Certificate}
    (read : ofDer? octets = some certificate) : certificate.der = octets := by
  unfold ofDer? at read
  obtain ⟨whole, _, read⟩ := Option.bind_eq_some_iff.mp read
  obtain ⟨parts, _, read⟩ := Option.bind_eq_some_iff.mp read
  split at read
  · obtain ⟨⟨version, subject⟩, _, read⟩ := Option.bind_eq_some_iff.mp read
    dsimp only at read
    split at read
    · cases read
      rfl
    · cases read
  · cases read

namespace Store

variable {files : Files} {content : Octets} {path : String} {first : Certificate}
  {rest : List Certificate}

/-! ### Files -/

private theorem der_of_ofBlock {block : Pem.Block} {certificate : Certificate}
    (read : ofBlock block = .ok certificate) : certificate.der = block.content := by
  unfold ofBlock at read
  cases found : ofDer? block.content with
  | none =>
      rw [found] at read
      cases read
  | some other =>
      rw [found] at read
      dsimp only at read
      split at read
      · cases read
        exact der_of_ofDer? found
      · cases read

private theorem der_of_mapM {blocks : List Pem.Block} {certificates : List Certificate}
    (read : blocks.mapM ofBlock = .ok certificates) :
    certificates.map Certificate.der = blocks.map Pem.Block.content := by
  induction blocks generalizing certificates with
  | nil =>
      cases read
      rfl
  | cons block others tail =>
      rw [List.mapM_cons] at read
      obtain ⟨certificate, own, read⟩ := bind_eq_ok read
      obtain ⟨rest, after, read⟩ := bind_eq_ok read
      cases read
      rw [List.map_cons, List.map_cons, der_of_ofBlock own, tail after]

/-- What the blocks of a file with one of the labels hold, in order. -/
def encodings (content : Octets) : List Octets :=
  match Pem.blocks content with
  | .ok blocks => (blocks.filter fun block => labels.contains block.label).map Pem.Block.content
  | .error _ => []

private theorem der_of_ofPem {certificates : Certificate × List Certificate}
    (read : ofPem content = .ok certificates) :
    (certificates.1 :: certificates.2).map Certificate.der = encodings content := by
  unfold ofPem at read
  obtain ⟨blocks, framed, read⟩ := bind_eq_ok read
  obtain ⟨parsed, each, read⟩ := bind_eq_ok read
  simp only [encodings, mapError_eq_ok.mp framed]
  rw [← der_of_mapM each]
  cases parsed with
  | nil => cases read
  | cons head tail =>
      cases read
      rfl

def Holds (files : Files) (path : String) (certificates : Certificate × List Certificate) : Prop :=
  ∃ content, files.read path = .ok content ∧ ofPem content = .ok certificates

private theorem loadFile_of_holds {certificates : Certificate × List Certificate}
    (holds : Holds files path certificates) : loadFile files path = .ok certificates := by
  obtain ⟨content, found, read⟩ := holds
  rw [loadFile, loadFileBy, found]
  exact mapError_eq_ok.mpr (mapError_eq_ok.mpr read)

private theorem mapM_loadFile {paths : List String} {held : List (Certificate × List Certificate)}
    (holds : List.Forall₂ (Holds files) paths held) :
    paths.mapM (loadFile files) = .ok held :=
  mapM_eq_ok_iff.mpr (holds.imp fun _ _ => loadFile_of_holds)

def together (held : List (Certificate × List Certificate)) : List Certificate :=
  held.flatMap fun (first, rest) => first :: rest

theorem der_together {paths : List String} {held : List (Certificate × List Certificate)}
    (holds : List.Forall₂ (Holds files) paths held) :
    ∃ contents, List.Forall₂ (fun path content => files.read path = .ok content) paths contents ∧
      (together held).map Certificate.der = contents.flatMap encodings := by
  induction holds with
  | nil => exact ⟨[], .nil, rfl⟩
  | cons own _ tail =>
      obtain ⟨content, found, read⟩ := own
      obtain ⟨contents, each, rest⟩ := tail
      refine ⟨content :: contents, .cons found each, ?_⟩
      rw [List.flatMap_cons, ← rest, ← der_of_ofPem read, ← List.map_append]
      rfl

variable {settings : Settings.Ca} {file : Certificate × List Certificate}
  {others : List (Certificate × List Certificate)}

def ofFiles (file : Certificate × List Certificate)
    (others : List (Certificate × List Certificate)) : Store :=
  ⟨file.1, file.2 ++ together others⟩

theorem certificates_ofFiles : (ofFiles file others).certificates = together (file :: others) := rfl

/-- If all files hold certificates there is one more thing that can go wrong: the
name of the authority may not be readable, and then there is no store. -/
theorem loadBy_of_loaded {read : String → Except Fault Octets}
    (named : settings.certFile = some path)
    (loaded : (path :: settings.chainFiles).mapM (loadFileBy read) = .ok (file :: others)) :
    loadBy read settings = (subjectText file.1).map fun subject =>
      (ofFiles file others, .caLoaded subject (together (file :: others)).length) := by
  obtain ⟨own, chain⟩ := List.forall₂_cons.mp (mapM_eq_ok_iff.mp loaded)
  unfold loadBy
  simp only [named, own, mapM_eq_ok_iff.mpr chain]
  change ((subjectText file.1).bind fun subject => _) = _
  cases subjectText file.1 with
  | error raised => rfl
  | ok subject => rfl

theorem loadBy_of_failed {read : String → Except Fault Octets} {raised : Raised}
    (named : settings.certFile = some path)
    (failed : (path :: settings.chainFiles).mapM (loadFileBy read) = .error raised) :
    loadBy read settings = .error raised := by
  rw [List.mapM_cons] at failed
  unfold loadBy
  simp only [named]
  cases own : loadFileBy read path with
  | error flaw =>
      rw [own] at failed
      cases failed
      rfl
  | ok file =>
      rw [own] at failed
      cases chain : settings.chainFiles.mapM (loadFileBy read) with
      | error flaw =>
          rw [chain] at failed
          cases failed
          rfl
      | ok others =>
          rw [chain] at failed
          cases failed

theorem load_of_holds (named : settings.certFile = some path)
    (holds : List.Forall₂ (Holds files) (path :: settings.chainFiles) (file :: others)) :
    load files settings = (subjectText file.1).map fun subject =>
      (ofFiles file others, .caLoaded subject (together (file :: others)).length) :=
  loadBy_of_loaded named (mapM_loadFile holds)

/-! ### What is sent -/

theorem payload_eq (store : Store) :
    store.payload =
      (if store.certificates.length = 1 then store.authority.der
        else Chain.encode (store.certificates.map Certificate.der), store.certificates.length) := by
  cases chain : store.chain with
  | nil =>
      rw [payload, certificates, chain]
      rfl
  | cons second others =>
      have several : ¬store.certificates.length = 1 := by
        rw [certificates, chain, List.length_cons, List.length_cons]
        omega
      rw [if_neg several, payload, certificates, chain]
      simp only [List.map_cons, List.length_cons, List.length_map]

end Store

end Certificate

end Scep
