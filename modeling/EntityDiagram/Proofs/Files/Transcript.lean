import EntityDiagram.Files.Transcript

/-!
Runs over several files. Such a run is made of the runs over single files: it prints what they
print, each under the name of its file and apart by empty lines, up to the first one that fails, and
it ends as that one ends. Files behind it are not looked at.
-/

namespace EntityDiagram

namespace Transcript

variable {files : Files}

/-- The index of the name that a run over names ends with: the first name whose own run fails, or
    else the last name. -/
def endIndex (files : Files) (names : List String) : Nat :=
  (names.findIdx? fun name => (ofFiles files [name]).error?.isSome).getD (names.length - 1)

/-- A run over one file is the transcript of the file. -/
theorem ofFiles_singleton (files : Files) (name : String) :
    ofFiles files [name] = ofFile files name := rfl

/-- A run that fails prints nothing of the file. -/
theorem output_ofFile_of_error {name : String} (failed : (ofFile files name).error? ≠ none) :
    (ofFile files name).output = "" := by
  cases found : files.ports name with
  | ok ports => simp [ofFile, found] at failed
  | error error => simp [ofFile, found, output]

/-- The transcript of a file depends on that file only. -/
theorem ofFile_congr {other : Files} {name : String} (same : other name = files name) :
    ofFile other name = ofFile files name := by
  rw [ofFile, ofFile, Files.ports, Files.ports, same]

theorem output_behind (transcript : Transcript) (lines : List String) :
    (transcript.behind lines).output = Text.printLines lines ++ transcript.output := by
  simp [output, behind]

/-- Whether a run over named files ends with the first of them: that file fails, or it is the only
    one. -/
def EndsWith (files : Files) (name : String) (names : List String) : Prop :=
  (ofFile files name).error?.isSome ∨ names.isEmpty

theorem ofNamedFiles_of_endsWith {name : String} {names : List String}
    (first : EndsWith files name names) :
    ofNamedFiles files (name :: names) = (ofFile files name).behind [name] := if_pos first

theorem ofNamedFiles_of_not_endsWith {name : String} {names : List String}
    (notFirst : ¬ EndsWith files name names) :
    ofNamedFiles files (name :: names) =
      (ofNamedFiles files names).behind (name :: (ofFile files name).lines ++ [""]) :=
  if_neg notFirst

theorem endIndex_of_endsWith {name : String} {names : List String}
    (first : EndsWith files name names) : endIndex files (name :: names) = 0 := by
  rw [endIndex, List.findIdx?_cons, ofFiles_singleton]
  rcases first with failed | only
  · simp [failed]
  · obtain rfl : names = [] := by simpa using only
    cases (ofFile files name).error?.isSome <;> rfl

theorem endIndex_of_not_endsWith {name : String} {names : List String}
    (notFirst : ¬ EndsWith files name names) :
    endIndex files (name :: names) = endIndex files names + 1 := by
  obtain ⟨works, more⟩ := not_or.mp notFirst
  have behind : 0 < names.length := by
    rw [List.length_pos_iff]
    simpa using more
  rw [endIndex, List.findIdx?_cons, ofFiles_singleton, if_neg works, endIndex, List.length_cons]
  cases names.findIdx? fun name => (ofFiles files [name]).error?.isSome with
  | none =>
    simp only [Option.map_none, Option.getD_none]
    omega
  | some index => rfl

/-- A run over named files prints each file's run under its name, up to the name that it ends with,
    and ends as the run over that file does. -/
theorem ofNamedFiles_of_single (files : Files) {names : List String} (nonempty : names ≠ []) :
    (∃ name, names[endIndex files names]? = some name ∧
      (ofNamedFiles files names).error? = (ofFile files name).error?) ∧
    (ofNamedFiles files names).output =
      Text.joinLines ((names.take (endIndex files names + 1)).map fun name =>
        name ++ "\n" ++ (ofFile files name).output) := by
  induction names with
  | nil => exact absurd rfl nonempty
  | cons name names ih =>
    by_cases first : EndsWith files name names
    · rw [ofNamedFiles_of_endsWith first, endIndex_of_endsWith first]
      refine ⟨⟨name, rfl, rfl⟩, ?_⟩
      simp [output_behind, Text.joinLines]
    · have later : names ≠ [] := by simpa using (not_or.mp first).2
      obtain ⟨⟨last, found, same⟩, printed⟩ := ih later
      have taken : names.take (endIndex files names + 1) ≠ [] := by simpa using later
      rw [ofNamedFiles_of_not_endsWith first, endIndex_of_not_endsWith first]
      refine ⟨⟨last, by simpa using found, same⟩, ?_⟩
      -- The empty line behind the file is the line feed that joins it to the rest of the run.
      rw [output_behind, printed, List.take_succ_cons, List.map_cons, Text.joinLines,
        Text.joinLines, String.intercalate_cons_of_ne_nil (by simpa using taken)]
      simp [output, String.append_assoc]

/-- A run over named files does not look at files behind the name that it ends with. -/
theorem ofNamedFiles_congr {other : Files} {names : List String}
    (same : ∀ name ∈ names.take (endIndex files names + 1), other name = files name) :
    ofNamedFiles other names = ofNamedFiles files names := by
  induction names with
  | nil => rfl
  | cons name names ih =>
    have here := ofFile_congr (same name (by simp))
    -- Whether a run goes on is told from the first file, so that both runs do the same.
    by_cases first : EndsWith files name names
    · have sameEnd : EndsWith other name names := by rwa [EndsWith, here]
      rw [ofNamedFiles_of_endsWith first, ofNamedFiles_of_endsWith sameEnd, here]
    · have sameEnd : ¬ EndsWith other name names := by rwa [EndsWith, here]
      have index := endIndex_of_not_endsWith first
      have later := ih fun next member => same next (by simp [index, member])
      rw [ofNamedFiles_of_not_endsWith first, ofNamedFiles_of_not_endsWith sameEnd, here, later]

/-- A run over files looks at the files that are named only. -/
theorem ofFiles_congr {other : Files} {names : List String}
    (same : ∀ name ∈ names, other name = files name) :
    ofFiles other names = ofFiles files names := by
  cases names with
  | nil => rfl
  | cons name names =>
    cases names with
    | nil => exact ofFile_congr (same name List.mem_cons_self)
    | cons second names =>
      exact ofNamedFiles_congr fun next member => same next (List.mem_of_mem_take member)

/-- A run over several files is made of the runs over single ones. It stops at the first name whose
    own run fails, ends as the run over the name that it stops at does, and prints what the runs up
    to there print, each behind its name and with a line feed between one and the next. A run that
    fails prints nothing itself, and what the files behind are has no influence. A run over no files
    prints nothing and reports that there are none. -/
theorem ofFiles_of_single (files : Files) (names : List String) :
    ((ofFiles files []).output = "" ∧ (ofFiles files []).error? = some .noFiles) ∧
    (2 ≤ names.length →
      let run := ofFiles files names
      let single (name : String) := ofFiles files [name]
      let reached := names.take (endIndex files names + 1)
      (∃ name, names[endIndex files names]? = some name ∧ run.error? = (single name).error?) ∧
      run.output = Text.joinLines (reached.map fun name => name ++ "\n" ++ (single name).output) ∧
      (∀ name, (single name).error? ≠ none → (single name).output = "") ∧
      ∀ other : Files, (∀ name ∈ reached, other name = files name) →
        ofFiles other names = run) := by
  refine ⟨⟨rfl, rfl⟩, ?_⟩
  intro several run single reached
  obtain ⟨first, second, rest, rfl⟩ : ∃ first second rest, names = first :: second :: rest := by
    match names, several with
    | first :: second :: rest, _ => exact ⟨first, second, rest, rfl⟩
  obtain ⟨ending, printed⟩ := ofNamedFiles_of_single files (List.cons_ne_nil first _)
  refine ⟨ending, printed, ?_, ?_⟩
  · intro name failed
    exact output_ofFile_of_error failed
  · intro other same
    exact ofNamedFiles_congr same

/-- Files of which one has a diagram and one ends before any entity begins. -/
def goodAndEmpty : Files
  | "good" => some ("entity e is port (\n a : in std_logic\n); end;".toList.map (·.toNat.toUInt8))
  | "--" => some []
  | _ => none

theorem ofFiles_of_goodAndEmpty :
    2 ≤ ["good", "--", "missing"].length ∧ endIndex goodAndEmpty ["good", "--", "missing"] = 1 ∧
      let run := ofFiles goodAndEmpty ["good", "--", "missing"]
      let single (name : String) := ofFiles goodAndEmpty [name]
      run.error? = (single "--").error? ∧
      run.output = Text.joinLines
        ["good" ++ "\n" ++ (single "good").output, "--" ++ "\n" ++ (single "--").output] := by
  have stop : endIndex goodAndEmpty ["good", "--", "missing"] = 1 := by decide +kernel
  obtain ⟨⟨name, found, same⟩, printed, -⟩ :=
    (ofFiles_of_single goodAndEmpty ["good", "--", "missing"]).2 (by decide)
  rw [stop] at found printed
  obtain rfl : "--" = name := by simpa using found
  exact ⟨by decide, stop, same, printed⟩

end Transcript

end EntityDiagram
