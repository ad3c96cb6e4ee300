import EntityDiagram.Proofs.Source.Landmarks

/-!
The outcome of a reading. A source is read well exactly if its port clause ends before a declaration
is refused; otherwise the reading breaks off at the refused declaration, or runs out of lines in the
phase that the landmarks tell. What stands behind the line that ends a reading has no influence.
-/

namespace EntityDiagram

/-- The lines of the port clause, from the line that opens it up to an index. -/
def clause (port stop : Nat) (lines : List Line) : List Line := (lines.take stop).drop port

/-- A scanner that has just come to the port clause. -/
def Scanner.inClause : Scanner := { Scanner.initial with phase := .inPorts }

namespace Landmarks

variable {lines : List Line} {port : Nat}

theorem exists_port?_of_finish? {finish : Nat} (found : (of lines).finish? = some finish) :
    ∃ port, (of lines).port? = some port := by
  obtain ⟨port, portFound, -⟩ := Option.bind_eq_some_iff.mp found
  exact ⟨port, portFound⟩

theorem exists_port?_of_refusal? {refusal : Nat} (found : (of lines).refusal? = some refusal) :
    ∃ port, (of lines).port? = some port := by
  obtain ⟨port, portFound, -⟩ := Option.bind_eq_some_iff.mp found
  exact ⟨port, portFound⟩

theorem stops_eq_false {line : Line} (noFinish : line.marks .finish = false)
    (noRefusal : line.isRefused = false) : line.stops = false := by
  rw [Line.stops, noFinish, noRefusal, Bool.or_false]

/-- The lines before the end of the clause do not stop a reading if none of them is refused. -/
theorem stops_eq_false_of_refusal?_eq_none (portFound : (of lines).port? = some port)
    (noRefusal : (of lines).refusal? = none) {i : Nat} {line : Line} (behind : port ≤ i)
    (before : ∀ finish, (of lines).finish? = some finish → i < finish)
    (found : lines[i]? = some line) : line.stops = false := by
  rw [refusal?_of_port? portFound, firstFrom?_eq_none_iff] at noRefusal
  have inside : i < lines.length := (List.getElem?_eq_some_iff.mp found).1
  have finishLines := finish?_of_port? portFound
  cases finishFound : (of lines).finish? with
  | none =>
    rw [finishFound] at finishLines noRefusal
    apply stops_eq_false
    · exact firstFrom?_eq_none_iff.mp finishLines.symm i line behind found
    · apply noRefusal i line behind
      rwa [Option.getD_none, List.getElem?_take_of_lt inside]
  | some finish =>
    rw [finishFound] at finishLines noRefusal
    have earlier := before finish finishFound
    apply stops_eq_false
    · have least := (firstFrom?_eq_some_iff.mp finishLines.symm).2
      rw [← Bool.not_eq_true]
      intro marked
      have := least ⟨behind, line, found, marked⟩
      omega
    · apply noRefusal i line behind
      rwa [Option.getD_some, List.getElem?_take_of_lt earlier]

/-- The lines before the first refused declaration do not stop a reading, and that declaration
    itself does. -/
theorem stops_of_refusal? (portFound : (of lines).port? = some port) {refusal : Nat}
    (refused : (of lines).refusal? = some refusal) :
    port ≤ refusal ∧ (∃ line, lines[refusal]? = some line ∧ line.isRefused = true) ∧
      ∀ i line, port ≤ i → i < refusal → lines[i]? = some line → line.stops = false := by
  rw [refusal?_of_port? portFound] at refused
  obtain ⟨⟨behind, line, found, isRefused⟩, least⟩ := firstFrom?_eq_some_iff.mp refused
  obtain ⟨before, here⟩ : refusal < (of lines).finish?.getD lines.length ∧
      lines[refusal]? = some line := by
    rw [List.getElem?_take] at found
    split at found
    · exact ⟨by assumption, found⟩
    · cases found
  refine ⟨behind, ⟨line, here, isRefused⟩, ?_⟩
  intro i other lower upper otherFound
  apply stops_eq_false
  · rw [← Bool.not_eq_true]
    intro marked
    have finishLines := finish?_of_port? portFound
    cases finishFound : (of lines).finish? with
    | none =>
      rw [finishFound] at finishLines
      rw [firstFrom?_eq_none_iff.mp finishLines.symm i other lower otherFound] at marked
      cases marked
    | some finish =>
      rw [finishFound] at finishLines before
      have := (firstFrom?_eq_some_iff.mp finishLines.symm).2 ⟨lower, other, otherFound, marked⟩
      rw [Option.getD_some] at before
      omega
  · rw [← Bool.not_eq_true]
    intro otherRefused
    have := least ⟨lower, other, by rwa [List.getElem?_take_of_lt (by omega)], otherRefused⟩
    omega

end Landmarks

namespace Reading

variable {lines : List Line} {port : Nat}

/-- A reading with a port clause ends with the line that stops it, which it scans behind the
    lines of the clause before. -/
theorem exists_scanLines_eq_scan (portFound : (Landmarks.of lines).port? = some port) {stop : Nat}
    {line : Line} (behind : port ≤ stop) (found : lines[stop]? = some line)
    (stops : line.stops = true)
    (runs : ∀ i other, port ≤ i → i < stop → lines[i]? = some other → other.stops = false) :
    ∃ before : Reading, initial.scanLines lines = before.scan line ∧
      before.scanner = Scanner.inClause.readAll (clause port stop lines) ∧
      before.scanner.phase = .inPorts ∧ before.consumed = stop := by
  obtain ⟨entity, -, -, enters⟩ := scanLines_of_port? portFound
  have body : ∀ other ∈ clause port stop lines, other.stops = false := by
    intro other member
    obtain ⟨i, lower, upper, here⟩ := mem_drop_take member
    exact runs i other lower upper here
  obtain ⟨scanner, phase, consumed, -⟩ :=
    @scanLines_of_not_stops (entered entity port) rfl rfl _ body
  refine ⟨_, enters.trans (scanLines_of_stops rfl rfl behind found stops runs), scanner, phase, ?_⟩
  have inside := (List.getElem?_eq_some_iff.mp found).1
  have start : (entered entity port).consumed = port := rfl
  rw [clause, List.length_drop, List.length_take, start] at consumed
  rw [consumed]
  omega

/-- A reading that meets no refused declaration takes the port clause up to its end. -/
theorem scanLines_of_finish? (portFound : (Landmarks.of lines).port? = some port) {finish : Nat}
    (finishFound : (Landmarks.of lines).finish? = some finish)
    (noRefusal : (Landmarks.of lines).refusal? = none) :
    let reading := initial.scanLines lines
    let behind := Scanner.inClause.readAll (clause port finish lines)
    reading.scanner = { behind with phase := .complete } ∧ reading.consumed = finish + 1 ∧
      reading.refused? = none := by
  obtain ⟨⟨behind, line, found, marked⟩, -⟩ :=
    firstFrom?_eq_some_iff.mp ((Landmarks.finish?_of_port? portFound).symm.trans finishFound)
  have runs : ∀ i other, port ≤ i → i < finish → lines[i]? = some other →
      other.stops = false := by
    intro i other lower upper here
    apply Landmarks.stops_eq_false_of_refusal?_eq_none portFound noRefusal lower _ here
    intro stop stopFound
    obtain rfl : finish = stop := by simpa [finishFound] using stopFound
    exact upper
  obtain ⟨before, whole, scanner, phase, consumed⟩ := exists_scanLines_eq_scan portFound behind
    found (by simp [Line.stops, marked]) runs
  rw [whole, scan_of_finish phase marked, scanner, consumed]
  exact ⟨rfl, rfl, rfl⟩

/-- A reading that meets a refused declaration breaks off there. -/
theorem scanLines_of_refusal? (portFound : (Landmarks.of lines).port? = some port) {refusal : Nat}
    (refused : (Landmarks.of lines).refusal? = some refusal) :
    let reading := initial.scanLines lines
    reading.consumed = refusal + 1 ∧ ∃ line declaration, lines[refusal]? = some line ∧
      Declaration.read? line = some declaration ∧
      reading.refused? = some (Text.lower (String.ofList declaration.mode)) := by
  obtain ⟨behind, ⟨line, found, isRefused⟩, runs⟩ := Landmarks.stops_of_refusal? portFound refused
  obtain ⟨declaration, kind, turkish⟩ := Line.isRefused_iff.mp isRefused
  obtain ⟨before, whole, -, phase, consumed⟩ := exists_scanLines_eq_scan portFound behind found
    (by simp [Line.stops, isRefused]) runs
  rw [whole, scan_of_hasTurkishI phase kind turkish, consumed]
  exact ⟨rfl, line, declaration, found, (Line.kind_eq_declaration_iff.mp kind).2.2, rfl⟩

/-- A reading of a port clause without an end runs out of lines. -/
theorem scanLines_of_finish?_eq_none (portFound : (Landmarks.of lines).port? = some port)
    (noFinish : (Landmarks.of lines).finish? = none)
    (noRefusal : (Landmarks.of lines).refusal? = none) :
    let reading := initial.scanLines lines
    reading.scanner.phase = .inPorts ∧ reading.consumed = lines.length ∧
      reading.refused? = none := by
  obtain ⟨entity, -, -, enters⟩ := scanLines_of_port? portFound
  have inside : port < lines.length := by
    obtain ⟨entity, -, portLines⟩ := Option.bind_eq_some_iff.mp portFound
    obtain ⟨⟨-, line, found, -⟩, -⟩ := firstFrom?_eq_some_iff.mp portLines
    exact (List.getElem?_eq_some_iff.mp found).1
  have runs : ∀ other ∈ lines.drop port, other.stops = false := by
    intro other member
    obtain ⟨offset, found⟩ := List.mem_iff_getElem?.mp member
    rw [List.getElem?_drop] at found
    apply Landmarks.stops_eq_false_of_refusal?_eq_none portFound noRefusal _ _ found
    · omega
    · simp [noFinish]
  obtain ⟨-, phase, consumed, running⟩ :=
    @scanLines_of_not_stops (entered entity port) rfl rfl _ runs
  have start : (entered entity port).consumed = port := rfl
  rw [List.length_drop, start] at consumed
  rw [enters]
  exact ⟨phase, by omega, running⟩

theorem consumed_le_scanLines (reading : Reading) (lines : List Line) :
    reading.consumed ≤ (reading.scanLines lines).consumed := by
  induction lines generalizing reading with
  | nil => exact Nat.le_refl _
  | cons line lines ih =>
    cases ended : reading.isOver with
    | true => rw [scanLines_of_isOver ended]
    | false =>
      have later := ih (reading.scan line)
      have one : (reading.scan line).consumed = reading.consumed + 1 := rfl
      rw [scanLines_cons ended]
      omega

/-- A reading depends on no more lines than it consumes. -/
theorem scanLines_take_consumed (reading : Reading) (lines : List Line) :
    reading.scanLines (lines.take ((reading.scanLines lines).consumed - reading.consumed)) =
      reading.scanLines lines := by
  induction lines generalizing reading with
  | nil => simp
  | cons line lines ih =>
    cases ended : reading.isOver with
    | true => simp only [scanLines_of_isOver ended]
    | false =>
      have least := consumed_le_scanLines (reading.scan line) lines
      have one : (reading.scan line).consumed = reading.consumed + 1 := rfl
      have count : ((reading.scan line).scanLines lines).consumed - reading.consumed =
          ((reading.scan line).scanLines lines).consumed - (reading.scan line).consumed + 1 := by
        omega
      rw [scanLines_cons ended, count, List.take_succ_cons, scanLines_cons ended, ih]

theorem scanned_take_append (lines others : List String) (count : Nat) :
    scanned (lines.take count ++ others) = (scanned lines).take count ++ scanned others := by
  simp [scanned]

/-- Lines behind the one that ended a reading have no influence on it. -/
theorem ofLines_take_consumed_append {lines : List String} (ended : (ofLines lines).isOver = true)
    (others : List String) :
    ofLines (lines.take (ofLines lines).consumed ++ others) = ofLines lines := by
  have consumedLines := scanLines_take_consumed initial (scanned lines)
  rw [ofLines_eq_scanLines] at ended ⊢
  rw [ofLines_eq_scanLines, scanned_take_append, scanLines_append]
  have start : initial.consumed = 0 := rfl
  rw [start, Nat.sub_zero] at consumedLines
  rw [consumedLines, scanLines_of_isOver ended]

/-- A reading without the end of the clause and without a refused declaration stands in the phase
    that its landmarks tell, behind all lines. -/
theorem scanLines_of_incomplete {lines : List Line}
    (noFinish : (Landmarks.of lines).finish? = none)
    (noRefusal : (Landmarks.of lines).refusal? = none) :
    let reading := initial.scanLines lines
    reading.scanner.phase = (Landmarks.of lines).phase ∧ reading.consumed = lines.length ∧
      reading.refused? = none := by
  cases portFound : (Landmarks.of lines).port? with
  | some port =>
    have phase : (Landmarks.of lines).phase = .inPorts := by simp [Landmarks.phase, portFound]
    rw [phase]
    exact scanLines_of_finish?_eq_none portFound noFinish noRefusal
  | none =>
    cases entityFound : (Landmarks.of lines).entity? with
    | none =>
      have phase : (Landmarks.of lines).phase = .searching := by
        simp [Landmarks.phase, portFound, entityFound]
      rw [phase, scanLines_of_entity?_eq_none entityFound]
      exact ⟨rfl, Nat.zero_add _, rfl⟩
    | some entity =>
      have phase : (Landmarks.of lines).phase = .inEntity := by
        simp [Landmarks.phase, portFound, entityFound]
      obtain ⟨⟨-, line, found, -⟩, -⟩ := firstFrom?_eq_some_iff.mp entityFound
      have inside := (List.getElem?_eq_some_iff.mp found).1
      rw [phase, scanLines_of_port?_eq_none entityFound portFound]
      refine ⟨rfl, ?_, rfl⟩
      simp only [skip, pass, initial]
      omega

section Result

variable {lines : List String} (source : String)

/-- A refused declaration of the clause is the error of the reading. -/
theorem result_ofLines_of_refusal? {refusal : Nat}
    (refused : (Landmarks.of (scanned lines)).refusal? = some refusal) :
    ∃ line declaration, (scanned lines)[refusal]? = some line ∧
      Declaration.read? line = some declaration ∧
      (ofLines lines).result source =
        .error (.unknownDirection (Text.lower (String.ofList declaration.mode))) := by
  obtain ⟨port, portFound⟩ := Landmarks.exists_port?_of_refusal? refused
  obtain ⟨-, line, declaration, found, read, keyword⟩ := scanLines_of_refusal? portFound refused
  refine ⟨line, declaration, found, read, ?_⟩
  simp [ofLines_eq_scanLines, result, keyword]

/-- A clause that ends before a declaration is refused gives its ports. -/
theorem result_ofLines_of_finish? {port finish : Nat}
    (portFound : (Landmarks.of (scanned lines)).port? = some port)
    (finishFound : (Landmarks.of (scanned lines)).finish? = some finish)
    (noRefusal : (Landmarks.of (scanned lines)).refusal? = none) :
    (ofLines lines).result source =
      .ok (Scanner.inClause.readAll (clause port finish (scanned lines))).ports := by
  obtain ⟨scanner, -, running⟩ := scanLines_of_finish? portFound finishFound noRefusal
  simp [ofLines_eq_scanLines, result, running, scanner]

/-- Without an end of the clause and without a refused declaration, the error is that the lines
    ended too early. -/
theorem result_ofLines_of_incomplete
    (noFinish : (Landmarks.of (scanned lines)).finish? = none)
    (noRefusal : (Landmarks.of (scanned lines)).refusal? = none) :
    (ofLines lines).result source =
      .error (.incomplete source (some (Landmarks.of (scanned lines)).phase)) := by
  obtain ⟨phase, -, running⟩ := scanLines_of_incomplete noFinish noRefusal
  simp [ofLines_eq_scanLines, result, running, phase, Landmarks.phase_ne_complete]

end Result

/-- How the reading of any lines ends, and how many of them it consumes: at the first refused
    declaration of the clause, at the end of the clause, or behind all lines in the phase that the
    landmarks tell. Whatever stands behind the line that ended it has no influence. -/
theorem outcome_ofLines (lines : List String) (source : String) :
    let landmarks := Landmarks.of (scanned lines)
    let reading := ofLines lines
    match landmarks.refusal?, landmarks.finish? with
    | some refusal, _ =>
      reading.consumed = refusal + 1 ∧
        (∃ line declaration, (scanned lines)[refusal]? = some line ∧
          Declaration.read? line = some declaration ∧
          reading.result source =
            .error (.unknownDirection (Text.lower (String.ofList declaration.mode)))) ∧
        ∀ others, ofLines (lines.take (refusal + 1) ++ others) = reading
    | none, some finish =>
      reading.consumed = finish + 1 ∧ (∃ ports, reading.result source = .ok ports) ∧
        ∀ others, ofLines (lines.take (finish + 1) ++ others) = reading
    | none, none =>
      reading.consumed = lines.length ∧
        reading.result source = .error (.incomplete source (some landmarks.phase)) := by
  intro landmarks reading
  have scans : reading = initial.scanLines (scanned lines) := ofLines_eq_scanLines lines
  cases refusalFound : landmarks.refusal? with
  | some refusal =>
    obtain ⟨port, portFound⟩ := Landmarks.exists_port?_of_refusal? refusalFound
    obtain ⟨consumed, line, declaration, found, read, refused⟩ :=
      scanLines_of_refusal? portFound refusalFound
    rw [← scans] at consumed refused
    have ended : reading.isOver = true := by simp [isOver, refused]
    refine ⟨consumed, ⟨line, declaration, found, read, by simp [result, refused]⟩, ?_⟩
    rw [← consumed]
    exact ofLines_take_consumed_append ended
  | none =>
    cases finishFound : landmarks.finish? with
    | some finish =>
      obtain ⟨port, portFound⟩ := Landmarks.exists_port?_of_finish? finishFound
      obtain ⟨scanner, consumed, running⟩ :=
        scanLines_of_finish? portFound finishFound refusalFound
      rw [← scans] at scanner consumed running
      have complete : reading.scanner.phase = .complete := by rw [scanner]
      have ended : reading.isOver = true := by simp [isOver, complete]
      refine ⟨consumed, ⟨reading.scanner.ports, by simp [result, running, complete]⟩, ?_⟩
      rw [← consumed]
      exact ofLines_take_consumed_append ended
    | none =>
      obtain ⟨phase, consumed, running⟩ := scanLines_of_incomplete finishFound refusalFound
      rw [← scans] at phase consumed running
      refine ⟨by simpa [scanned] using consumed, ?_⟩
      simp [result, running, phase, landmarks, Landmarks.phase_ne_complete]

end Reading

end EntityDiagram
