import TaggedGrammar.Proofs.Output.Documents
import TaggedGrammar.Proofs.Text.Newline

/-!
# What a check finds

A check reads each document and compares texts. A document is reported if it is gone, is a directory or holds
another text. It is not reported if it has the bytes of its text, be it with other line ends.
-/

namespace TaggedGrammar.Output

open Files Files.Disk Run

/-- What is in the place of a document that does not hold its text. -/
inductive Stale (text : Text) : Option Entry → Prop where
  | absent :
    Stale text none
  | directory :
    Stale text (some .directory)
  | differs {content cs} :
    Text.ofBytes? content = some cs →
    Text.ofChars cs ≠ text →
    Stale text (some (.file content))

/-- What is in the place of a document that holds its text, with one line end throughout. -/
inductive Current (text : Text) : Option Entry → Prop where
  | file {lineEnd cs} :
    lineEnd ∈ Text.lineEnds →
    text = Text.ofChars cs →
    Current text (some (.file (String.ofList (Text.withLineEnd lineEnd cs)).toUTF8))

section Holds

variable {r : Files.Path} {place : Place} {entry : Option Entry} {s : Session}

/-- The text of a file is compared with another one. -/
lemma ends_holds {content : ByteArray} {cs : List Char}
    (hfile : s.disk.locate .follow r = .ok ⟨place, some (.file content)⟩)
    (hread : Text.ofBytes? content = some cs) (text : Text) :
    Ends (holds r text) s (.ok (Text.ofChars cs = text)) s := by
  have hisFile : s.disk.isFile r = .ok true := by
    rw [isFile, find_eq_some.2 ⟨place, hfile⟩]
    rfl
  have hcontent : s.disk.contentAt r = .ok content := by
    simp only [contentAt, hfile, bind, Except.bind]
  have found : (Outcome.ofOption Fault.notText (Text.ofBytes? content)).result = .ok cs := by
    rw [hread, Outcome.result_ofOption_some]
  refine Ends.bind (ends_inspect.2 ⟨hisFile.symm, rfl⟩) ?_
  refine Ends.bind (ends_inspect.2 ⟨hcontent.symm, rfl⟩) ?_
  exact Ends.bind (ends_ofOutcome.2 ⟨found.symm, rfl⟩) (ends_pure.2 ⟨rfl, rfl⟩)

/-- Where there is no file no text is held. -/
lemma ends_holds_of_noFile (h : s.disk.isFile r = .ok false) (text : Text) :
    Ends (holds r text) s (.ok false) s :=
  Ends.bind (ends_inspect.2 ⟨h.symm, rfl⟩) (ends_pure.2 ⟨rfl, rfl⟩)

variable {text : Text} (hspot : s.disk.locate .follow r = .ok ⟨place, entry⟩)

include hspot

/-- A stale entry does not hold the text. -/
lemma ends_holds_of_stale (h : Stale text entry) : Ends (holds r text) s (.ok false) s := by
  cases h with
  | absent =>
    apply ends_holds_of_noFile
    rw [isFile, find, hspot]
    rfl
  | directory =>
    apply ends_holds_of_noFile
    rw [isFile, find, hspot]
    rfl
  | differs hread hne =>
    have compared := ends_holds hspot hread text
    rwa [decide_eq_false hne] at compared

/-- A current entry holds the text, whatever line ends it has. -/
lemma ends_holds_of_current (h : Current text entry) (hreturn : .char '\r' ∉ text) :
    Ends (holds r text) s (.ok true) s := by
  cases h with
  | file hend htext =>
    have compared := ends_holds hspot (Text.ofBytes?_withLineEnd hend (htext ▸ hreturn)) text
    rwa [decide_eq_true htext.symm] at compared

end Holds

section Outdated

variable {p : Files.Path} {q : Place} {s : Session} {files : List GeneratedFile} {names : List Text}

/-- The documents that are outdated are the stale ones, if all others are current. -/
lemma ends_outdated (hq : s.disk.LeadsTo p q) (hn : ∀ f ∈ files, s.disk.Reachable p f.name)
    (stale : ∀ f ∈ files, f.name ∈ names → Stale f.text (s.disk.get (f.name :: q)))
    (current : ∀ f ∈ files, f.name ∉ names → Current f.text (s.disk.get (f.name :: q)))
    (hreturn : ∀ f ∈ files, .char '\r' ∉ f.text) :
    Ends (outdated p files) s (.ok ((files.map (·.name)).filter (· ∈ names))) s := by
  induction files with
  | nil => exact ends_pure.2 ⟨rfl, rfl⟩
  | cons f rest ih =>
    obtain ⟨hn_f, hn_rest⟩ := List.forall_mem_cons.1 hn
    obtain ⟨stale_f, stale_rest⟩ := List.forall_mem_cons.1 stale
    obtain ⟨current_f, current_rest⟩ := List.forall_mem_cons.1 current
    obtain ⟨hreturn_f, hreturn_rest⟩ := List.forall_mem_cons.1 hreturn
    have others := ih hn_rest stale_rest current_rest hreturn_rest
    rw [List.map_cons]
    by_cases hname : f.name ∈ names
    · rw [List.filter_cons_of_pos (by simpa using hname)]
      exact Ends.bind (ends_holds_of_stale (hn_f.locate hq) (stale_f hname))
        (Ends.bind (ends_note.2 ⟨rfl, rfl⟩) (Ends.bind others (ends_pure.2 ⟨rfl, rfl⟩)))
    · rw [List.filter_cons_of_neg (by simpa using hname)]
      exact Ends.bind (ends_holds_of_current (hn_f.locate hq) (current_f hname) hreturn_f) others

/-- A document that has just been written is current. -/
lemma Settled.current {d : Disk} {f : GeneratedFile} (h : Settled d q f) : Current f.text (d.get (f.name :: q)) := by
  obtain ⟨content, hbytes, hget⟩ := h.held
  obtain ⟨cs, htext, rfl⟩ := Text.exists_chars_of_bytes? hbytes
  rw [hget, ← Text.withLineEnd_newline cs]
  exact .file (by simp [Text.lineEnds]) htext

/-- Documents that are there are not outdated. -/
lemma ends_outdated_of_settled (hq : s.disk.LeadsTo p q) (hn : ∀ f ∈ files, s.disk.Reachable p f.name)
    (settled : ∀ f ∈ files, Settled s.disk q f) (hreturn : ∀ f ∈ files, .char '\r' ∉ f.text) :
    Ends (outdated p files) s (.ok []) s := by
  have none_stale : ∀ f ∈ files, f.name ∈ [] → Stale f.text (s.disk.get (f.name :: q)) := fun _ _ h => nomatch h
  have found := ends_outdated hq hn none_stale (fun f hf _ => (settled f hf).current) hreturn
  simpa using found

end Outdated

end TaggedGrammar.Output
