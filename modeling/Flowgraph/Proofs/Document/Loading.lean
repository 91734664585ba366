import Flowgraph.Document.Text
import Flowgraph.Proofs.Json.Reading

namespace Flowgraph.Document

variable {δ γ : Type} {r : Reader δ γ} {content : String} {f : Fault}

/-- What besides its form keeps a text in a format from being read. -/
inductive Spoils (r : Reader δ γ) (content : String) : Format → Fault → Prop
  /-- An integer in the text has more digits than a numeral can have. -/
  | longInteger {e : Json.ReadError} {ds : List Char} (hds : ds <:+: content.toList)
    (hdigits : ∀ d ∈ ds, d.isDigit = true) (hlong : Number.longestInteger < ds.length)
    (he : Json.read r.room content.toList = .error e) (hcause : e.cause = .longInteger ds.length) :
    Spoils r content .json (.raised "ValueError" (Number.longNumeralText ds.length))
  /-- What reads YAML raises something that it does not count as a fault of form. -/
  | raised {kind message : String} (he : r.readYaml content = .error (.raised kind message)) :
    Spoils r content .yaml (.raised kind message)
  | deepJson {e : Json.ReadError} (he : Json.read r.room content.toList = .error e)
    (hcause : e.cause = .tooDeep) : Spoils r content .json .tooDeep
  | deepYaml (he : r.readYaml content = .error .tooDeep) : Spoils r content .yaml .tooDeep

/-- The octets of a file whose name has the suffix of a format. -/
structure IsFile (files : Files) (path : String) (format : Format) (os : List UInt8) : Prop where
  suffix : Format.ofSuffix? (Text.suffix path) = some format
  name : '\x00' ∉ path.toList
  read : (files (Text.plainPath path)).read = .ok os

/-- What ends the loading of a file other than by a refusal: a name that no file has, octets that
are no text, or something in a text that is not blank. -/
inductive Escapes (r : Reader δ γ) (files : Files) (path : String) : Fault → Prop
  | badName {format : Format} (hformat : Format.ofSuffix? (Text.suffix path) = some format)
    (hpath : '\x00' ∈ path.toList) : Escapes r files path .badName
  | notText {format : Format} {os : List UInt8} {e : Text.Utf8Fault}
    (hfile : IsFile files path format os) (he : Text.ofOctets os = .error e) :
    Escapes r files path (.notText e)
  | spoilt {format : Format} {os : List UInt8} {content : String} {f : Fault}
    (hfile : IsFile files path format os) (hcontent : Text.ofOctets os = .ok content)
    (hblank : isEmptyText content = false) (hspoils : Spoils r content format f) :
    Escapes r files path f

def Fault.IsRefusal : Fault → Prop
  | refused _ => True
  | _ => False

theorem isRefusal_of_refuse {α : Type} {cause : Cause} {line : Option ℕ}
    (h : (refuse cause line : Except Fault α) = .error f) : f.IsRefusal := by
  cases h
  trivial

theorem isRefusal_of_accept {a : Checked γ} (h : accept a = .error f) : f.IsRefusal := by
  unfold accept at h
  split at h
  · cases h
  · exact isRefusal_of_refuse h

theorem Spoils.inFile {format : Format} (h : Spoils r content format f) (file : String) :
    f.inFile file = f := by
  cases h <;> rfl

namespace Reader

theorem isRefusal_of_ensureMapping {d : δ} (h : r.ensureMapping d = .error f) : f.IsRefusal := by
  unfold ensureMapping at h
  split at h
  · cases h
  · exact isRefusal_of_refuse h

theorem spoils_of_readJson (h : r.readJson content = .error f) :
    f.IsRefusal ∨ (isEmptyText content = false ∧ Spoils r content .json f) := by
  unfold readJson at h
  split at h
  · exact .inl (isRefusal_of_refuse h)
  next hblank =>
    have hblank : isEmptyText content = false := by simpa using hblank
    split at h
    · exact .inl (isRefusal_of_ensureMapping h)
    next e he =>
      split at h
      · next n hn =>
        cases h
        obtain ⟨hlong, ds, hds, rfl, hdigits⟩ := Json.digits_of_read he hn
        refine .inr ⟨hblank, ?_⟩
        rw [Json.ReadError.message, hn]
        exact .longInteger hds hdigits hlong he hn
      · next hn =>
        cases h
        exact .inr ⟨hblank, .deepJson he hn⟩
      · exact .inl (isRefusal_of_refuse h)

theorem spoils_of_parseYaml (h : r.parseYaml content = .error f) :
    f.IsRefusal ∨ (isEmptyText content = false ∧ Spoils r content .yaml f) := by
  unfold parseYaml at h
  split at h
  · exact .inl (isRefusal_of_refuse h)
  next hblank =>
    have hblank : isEmptyText content = false := by simpa using hblank
    split at h
    · exact .inl (isRefusal_of_ensureMapping h)
    · exact .inl (isRefusal_of_refuse h)
    · next kind message he =>
      cases h
      exact .inr ⟨hblank, .raised he⟩
    · next he =>
      cases h
      exact .inr ⟨hblank, .deepYaml he⟩

theorem spoils_of_readText {format : Format} (h : (r.readText (some format) content).2 = .error f) :
    f.IsRefusal ∨ (isEmptyText content = false ∧ Spoils r content format f) := by
  cases format with
  | json => exact spoils_of_readJson h
  | yaml => exact spoils_of_parseYaml h

theorem spoils_of_loadText {format : Format} (h : (r.loadText (some format) content).2 = .error f) :
    f.IsRefusal ∨ (isEmptyText content = false ∧ Spoils r content format f) := by
  change (r.readText (some format) content).2.bind _ = _ at h
  cases hread : (r.readText (some format) content).2 with
  | ok d =>
    rw [hread] at h
    exact .inl (isRefusal_of_accept h)
  | error e =>
    rw [hread] at h
    cases h
    exact spoils_of_readText hread

theorem loadText_of_spoils {format : Format} (hblank : isEmptyText content = false)
    (h : Spoils r content format f) : (r.loadText (some format) content).2 = .error f := by
  have hread : (r.readText (some format) content).2 = .error f := by
    cases h with
    | longInteger hds hdigits hlong he hcause =>
      change r.readJson content = _
      unfold readJson
      rw [hblank, he]
      dsimp only
      rw [Json.ReadError.message, hcause]
      rfl
    | raised he =>
      change r.parseYaml content = _
      unfold parseYaml
      rw [hblank, he]
      rfl
    | deepJson he hcause =>
      change r.readJson content = _
      unfold readJson
      rw [hblank, he]
      dsimp only
      rw [hcause]
      rfl
    | deepYaml he =>
      change r.parseYaml content = _
      unfold parseYaml
      rw [hblank, he]
      rfl
  change (r.readText (some format) content).2.bind _ = _
  rw [hread]
  rfl

variable {files : Files} {path : String}

theorem escapes_of_loadFile (h : r.loadFile files path = .error f) :
    (∃ e, f = .refused e ∧ e.file = some (Text.plainPath path)) ∨ Escapes r files path f := by
  unfold loadFile at h
  dsimp only at h
  split at h
  · cases h
    exact .inl ⟨_, rfl, rfl⟩
  next format hformat =>
    split at h
    · next hpath =>
      cases h
      exact .inr (.badName hformat (by simpa using hpath))
    next hpath =>
      split at h
      · cases h
        exact .inl ⟨_, rfl, rfl⟩
      next os hread =>
        have hfile : IsFile files path format os := ⟨hformat, by simpa using hpath, hread⟩
        split at h
        · next e he =>
          cases h
          exact .inr (.notText hfile he)
        next content hcontent =>
          cases hload : (r.loadText (some format) content).2 with
          | ok g =>
            rw [hload] at h
            cases h
          | error e =>
            rw [hload] at h
            cases h
            obtain hrefusal | ⟨hblank, hspoils⟩ := spoils_of_loadText hload
            · cases e with
              | refused e => exact .inl ⟨_, rfl, rfl⟩
              | _ => exact hrefusal.elim
            · rw [hspoils.inFile]
              exact .inr (.spoilt hfile hcontent hblank hspoils)

section

variable {format : Format} {os : List UInt8} (h : IsFile files path format os)

include h

theorem loadFile_of_notText {e : Text.Utf8Fault} (he : Text.ofOctets os = .error e) :
    r.loadFile files path = .error (.notText e) := by
  have hname : path.toList.contains '\x00' = false := by simpa using h.name
  simp only [loadFile, h.suffix, hname, h.read, he, Bool.false_eq_true, if_false]

theorem loadFile_of_content (hcontent : Text.ofOctets os = .ok content) :
    r.loadFile files path =
      (r.loadText (some format) content).2.mapError (Fault.inFile (Text.plainPath path)) := by
  have hname : path.toList.contains '\x00' = false := by simpa using h.name
  simp only [loadFile, h.suffix, hname, h.read, hcontent, Bool.false_eq_true, if_false]

end

theorem loadFile_of_escapes (h : Escapes r files path f) : r.loadFile files path = .error f := by
  cases h with
  | badName hformat hpath =>
    unfold loadFile
    dsimp only
    rw [hformat]
    exact if_pos (by simpa using hpath)
  | notText hfile he => exact loadFile_of_notText hfile he
  | spoilt hfile hcontent hblank hspoils =>
    rw [loadFile_of_content hfile hcontent, loadText_of_spoils hblank hspoils]
    exact congrArg Except.error (hspoils.inFile _)

end Reader

/-- Loading a file gives a graph, or a refusal that names the file, or one of a few other faults; and
each of these it gives whenever there is cause for it, whatever YAML and graphs are read with. -/
theorem loadFile_outcome {δ γ : Type} (r : Reader δ γ) (files : Files) (path : String) :
    (∀ f, r.loadFile files path = .error f →
      (∃ e, f = .refused e ∧ e.file = some (Text.plainPath path)) ∨ Escapes r files path f) ∧
    ∀ f, Escapes r files path f → r.loadFile files path = .error f :=
  ⟨fun _ ↦ Reader.escapes_of_loadFile, fun _ ↦ Reader.loadFile_of_escapes⟩

theorem loadFile_octet :
    Reader.standard.loadFile (fun _ ↦ .octets [0xff]) "g.json" =
      .error (.notText ⟨.start, 0, 1, 0xff⟩) := by with_unfolding_all rfl

end Flowgraph.Document
