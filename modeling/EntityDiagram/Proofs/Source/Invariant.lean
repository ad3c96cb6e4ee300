import EntityDiagram.Proofs.Source.Groups

/-!
What holds of a scanner behind any lines, whatever they led to: lines that were refused and lines
behind the end of the port clause are read on from. One lemma says what a line can do to a scanner;
the bounds on a step and the invariant of a run are read off its cases. That the groups have no gap
holds only as long as no line is refused, because a refused declaration marks its group as used.
-/

namespace EntityDiagram

namespace Scanner

variable {scanner : Scanner} {step : Step}

/-- What a line can do to a scanner, its events apart. A line that does more than pass to another
    phase is read in the port clause, to which it may have passed itself. -/
inductive Effect (scanner : Scanner) (step : Step) : Prop where
  | passes (phase : Phase) (forward : scanner.phase.rank ≤ phase.rank)
      (accepted : step.refused? = none)
      (behind : step.scanner = { scanner with phase := phase })
  | separates (inTime : scanner.phase.rank ≤ Phase.inPorts.rank)
      (used : scanner.groupEmpty = false) (accepted : step.refused? = none)
      (behind : step.scanner =
        { scanner with phase := .inPorts, group := scanner.group + 1, groupEmpty := true })
  | declares (port : Port) (inTime : scanner.phase.rank ≤ Phase.inPorts.rank)
      (group : port.group = scanner.group) (word : port.HasWordName)
      (accepted : step.refused? = none)
      (behind : step.scanner =
        { scanner with phase := .inPorts, groupEmpty := false, ports := scanner.ports.add port })
  | refuses (inTime : scanner.phase.rank ≤ Phase.inPorts.rank)
      (refused : step.refused?.isSome = true)
      (behind : step.scanner = { scanner with phase := .inPorts, groupEmpty := false })

theorem Effect.of_stay : scanner.Effect scanner.stay :=
  .passes scanner.phase (Nat.le_refl _) rfl rfl

/-- What a line does behind a phase that it has passed to, it does before that phase, too. -/
theorem Effect.of_pass {new : Phase} (forward : scanner.phase.rank ≤ new.rank)
    {second : Scanner → Step} (effect : (scanner.pass new).scanner.Effect
      (second (scanner.pass new).scanner)) :
    scanner.Effect ((scanner.pass new).andThen second) := by
  cases effect with
  | passes phase further accepted behind =>
    exact .passes phase (Nat.le_trans forward further) accepted behind
  | separates inTime used accepted behind =>
    exact .separates (Nat.le_trans forward inTime) used accepted behind
  | declares port inTime group word accepted behind =>
    exact .declares port (Nat.le_trans forward inTime) group word accepted behind
  | refuses inTime refused behind =>
    exact .refuses (Nat.le_trans forward inTime) refused behind

theorem effect_read_of_inPorts (phase : scanner.phase = .inPorts) (line : Line) :
    scanner.Effect (scanner.read line) := by
  have inTime : scanner.phase.rank ≤ Phase.inPorts.rank := by rw [phase]
  have same : { scanner with phase := .inPorts } = scanner := by rw [← phase]
  cases stops : line.stops with
  | false =>
    cases clauseStep phase stops with
    | skipped kind step =>
      rw [step]
      exact .of_stay
    | blank kind step =>
      rw [step, separate]
      cases empty : scanner.groupEmpty with
      | true => exact .of_stay
      | false => exact .separates inTime empty rfl (by rw [← phase]; rfl)
    | declaration spelling written direction spelled step =>
      rw [step]
      refine .declares _ inTime rfl ?_ rfl (by rw [← phase]; rfl)
      rw [Port.HasWordName, String.toList_ofList]
      exact spelling.name_word
  | true =>
    rw [read_of_inPorts phase]
    rcases Bool.or_eq_true_iff.mp stops with finish | refused
    · rw [Line.kind_eq_finish_iff.mpr finish]
      exact .passes .complete (by rw [phase]; decide) rfl rfl
    · obtain ⟨declaration, kind, turkish⟩ := Line.isRefused_iff.mp refused
      rw [kind, readKind, declare_of_hasTurkishI scanner turkish]
      exact .refuses inTime rfl (by rw [← phase])

/-- Before the port clause a line passes on and is read again, or changes nothing. -/
theorem effect_read_of_gate {old new : Phase} {keyword : Keyword}
    (gate : Phase.Gate old new keyword) (phase : scanner.phase = old) {line : Line}
    (further : (scanner.pass new).scanner.Effect ((scanner.pass new).scanner.read line)) :
    scanner.Effect (scanner.read line) := by
  cases present : line.marks keyword with
  | false =>
    rw [read_of_not_marks gate phase present]
    exact .of_stay
  | true =>
    rw [read_of_marks gate phase present]
    apply Effect.of_pass _ further
    rw [phase]
    cases gate <;> decide

/-- Whatever a line holds, it has one of these effects in every phase. -/
theorem effect_read (scanner : Scanner) (line : Line) : scanner.Effect (scanner.read line) := by
  cases phase : scanner.phase with
  | searching =>
    apply effect_read_of_gate .entity phase
    apply effect_read_of_gate .port rfl
    exact effect_read_of_inPorts rfl line
  | inEntity =>
    apply effect_read_of_gate .port phase
    exact effect_read_of_inPorts rfl line
  | inPorts => exact effect_read_of_inPorts phase line
  | complete =>
    rw [read_of_complete phase]
    exact .of_stay

/-- How far one line takes a scanner: forward by phases, and by one group or one port. -/
structure Advances (scanner : Scanner) (step : Step) : Prop where
  forward : scanner.phase.rank ≤ step.scanner.phase.rank
  final : scanner.phase = .complete → step.scanner = scanner
  group : scanner.group ≤ step.scanner.group ∧ step.scanner.group ≤ scanner.group + 1
  count : scanner.ports.count ≤ step.scanner.ports.count ∧
    step.scanner.ports.count ≤ scanner.ports.count + 1
  notBoth : step.scanner.group = scanner.group ∨ step.scanner.ports = scanner.ports
  refused : step.refused?.isSome = true →
    step.scanner.group = scanner.group ∧ step.scanner.ports = scanner.ports

theorem phase_ne_complete_of_rank_le (inTime : scanner.phase.rank ≤ Phase.inPorts.rank) :
    scanner.phase ≠ .complete := by
  intro complete
  rw [complete] at inTime
  exact absurd inTime (by decide)

theorem Effect.advances (effect : scanner.Effect step) : scanner.Advances step := by
  cases effect with
  | passes phase forward accepted behind =>
    refine ⟨by rw [behind]; exact forward, ?_, by simp [behind], by simp [behind],
      by simp [behind], by simp [accepted]⟩
    intro complete
    have last : phase = .complete := by
      apply Phase.rank_injective
      rw [complete] at forward
      exact Nat.le_antisymm (by cases phase <;> decide) forward
    rw [behind, last, ← complete]
  | separates inTime used accepted behind =>
    have notOver := phase_ne_complete_of_rank_le inTime
    exact ⟨by rw [behind]; exact inTime, fun complete => absurd complete notOver,
      by simp [behind], by simp [behind], by simp [behind], by simp [accepted]⟩
  | declares port inTime group word accepted behind =>
    have notOver := phase_ne_complete_of_rank_le inTime
    exact ⟨by rw [behind]; exact inTime, fun complete => absurd complete notOver,
      by simp [behind], by simp [behind], by simp [behind], by simp [accepted]⟩
  | refuses inTime refused behind =>
    have notOver := phase_ne_complete_of_rank_le inTime
    exact ⟨by rw [behind]; exact inTime, fun complete => absurd complete notOver,
      by simp [behind], by simp [behind], by simp [behind], by simp [behind]⟩

/-- What holds of a scanner at any time: the groups of both sides go up, but not beyond the group at
    hand, and only ports with words for names stand on the sides of their directions. -/
structure Sound (scanner : Scanner) : Prop where
  inputs_ordered : (scanner.ports.inputs.map Port.group).Pairwise (· ≤ ·)
  outputs_ordered : (scanner.ports.outputs.map Port.group).Pairwise (· ≤ ·)
  group_le : ∀ port ∈ scanner.ports.members, port.group ≤ scanner.group
  group_lt : scanner.groupEmpty = true → ∀ port ∈ scanner.ports.members, port.group < scanner.group
  inputs_input : ∀ port ∈ scanner.ports.inputs, port.direction = .input
  outputs_not_input : ∀ port ∈ scanner.ports.outputs, port.direction ≠ .input
  words : ∀ port ∈ scanner.ports.members, port.HasWordName
  untouched : scanner.phase.rank < Phase.inPorts.rank →
    scanner.ports = .empty ∧ scanner.group = 0

theorem sound_initial : initial.Sound where
  inputs_ordered := .nil
  outputs_ordered := .nil
  group_le := nofun
  group_lt := nofun
  inputs_input := nofun
  outputs_not_input := nofun
  words := nofun
  untouched := fun _ => ⟨rfl, rfl⟩

theorem pairwise_concat_group {ports : List Port} {port : Port}
    (ordered : (ports.map Port.group).Pairwise (· ≤ ·))
    (last : ∀ other ∈ ports, other.group ≤ port.group) :
    ((ports ++ [port]).map Port.group).Pairwise (· ≤ ·) := by
  rw [List.map_append, List.pairwise_append]
  refine ⟨ordered, List.pairwise_singleton _ _, ?_⟩
  simpa using last

/-- A port of the group at hand keeps the order of the groups and the sides of the directions. -/
theorem Sound.add (sound : scanner.Sound) {port : Port} (group : port.group = scanner.group)
    (word : port.HasWordName) :
    Sound { scanner with
      phase := .inPorts, groupEmpty := false, ports := scanner.ports.add port } := by
  have last : ∀ other ∈ scanner.ports.members, other.group ≤ port.group := by
    intro other member
    rw [group]
    exact sound.group_le other member
  have inputsOrdered := pairwise_concat_group sound.inputs_ordered
    fun other member => last other (List.mem_append_left _ member)
  have outputsOrdered := pairwise_concat_group sound.outputs_ordered
    fun other member => last other (List.mem_append_right _ member)
  have words : ∀ other ∈ (scanner.ports.add port).members, other.HasWordName := by
    intro other member
    rcases Ports.mem_members_add.mp member with before | rfl
    · exact sound.words other before
    · exact word
  have bounded : ∀ other ∈ (scanner.ports.add port).members, other.group ≤ scanner.group := by
    intro other member
    rcases Ports.mem_members_add.mp member with before | rfl
    · exact sound.group_le other before
    · exact Int.le_of_eq group
  cases side : port.direction.isInput with
  | true =>
    have direction := Direction.isInput_iff.mp side
    have added : scanner.ports.add port =
        { scanner.ports with inputs := scanner.ports.inputs ++ [port] } := by
      simp [Ports.add, side]
    rw [added] at words bounded ⊢
    refine ⟨inputsOrdered, sound.outputs_ordered, bounded, ?_, ?_, sound.outputs_not_input,
      words, fun early => absurd early (Nat.lt_irrefl _)⟩
    · intro empty
      cases empty
    · exact List.forall_mem_append.mpr
        ⟨sound.inputs_input, List.forall_mem_singleton.mpr direction⟩
  | false =>
    have direction : port.direction ≠ .input := by
      rw [Ne, ← Direction.isInput_iff, side]
      decide
    have added : scanner.ports.add port =
        { scanner.ports with outputs := scanner.ports.outputs ++ [port] } := by
      simp [Ports.add, side]
    rw [added] at words bounded ⊢
    refine ⟨sound.inputs_ordered, outputsOrdered, bounded, ?_, sound.inputs_input, ?_,
      words, fun early => absurd early (Nat.lt_irrefl _)⟩
    · intro empty
      cases empty
    · exact List.forall_mem_append.mpr
        ⟨sound.outputs_not_input, List.forall_mem_singleton.mpr direction⟩

/-- Every effect of a line keeps a scanner sound, that of a refused line included. -/
theorem Effect.sound (effect : scanner.Effect step) (sound : scanner.Sound) :
    step.scanner.Sound := by
  cases effect with
  | passes phase forward accepted behind =>
    rw [behind]
    exact { sound with
      untouched := fun early => sound.untouched (Nat.lt_of_le_of_lt forward early) }
  | separates inTime used accepted behind =>
    rw [behind]
    have below : ∀ port ∈ scanner.ports.members, port.group < (scanner.group + 1 : Nat) := by
      intro port member
      have := sound.group_le port member
      omega
    exact { sound with
      group_le := fun port member => Int.le_of_lt (below port member)
      group_lt := fun _ => below
      untouched := fun early => absurd early (Nat.lt_irrefl _) }
  | declares port inTime group word accepted behind =>
    rw [behind]
    exact sound.add group word
  | refuses inTime refused behind =>
    rw [behind]
    exact { sound with
      group_lt := nofun
      untouched := fun early => absurd early (Nat.lt_irrefl _) }

/-- No group is without a port, except the one at hand before its first declaration. -/
structure Filled (scanner : Scanner) : Prop where
  below : ∀ group < scanner.group, ∃ port ∈ scanner.ports.members, port.group = group
  current : (∃ port ∈ scanner.ports.members, port.group = scanner.group) ↔
    scanner.groupEmpty = false

theorem filled_initial : initial.Filled where
  below := nofun
  current := iff_of_false nofun nofun

/-- A line that is not refused leaves no group without a port. -/
theorem Effect.filled (effect : scanner.Effect step) (accepted : step.refused? = none)
    (sound : scanner.Sound) (filled : scanner.Filled) : step.scanner.Filled := by
  cases effect with
  | passes phase forward _ behind =>
    rw [behind]
    exact ⟨filled.below, filled.current⟩
  | separates inTime used _ behind =>
    rw [behind]
    refine ⟨?_, iff_of_false ?_ nofun⟩
    · intro group inside
      rcases Nat.lt_succ_iff_lt_or_eq.mp inside with earlier | rfl
      · exact filled.below group earlier
      · exact filled.current.mpr used
    · rintro ⟨port, member, same⟩
      have bound := sound.group_le port member
      have next : port.group = (scanner.group + 1 : Nat) := same
      omega
  | declares port inTime same word _ behind =>
    rw [behind]
    refine ⟨?_, iff_of_true ⟨port, Ports.mem_members_add.mpr (.inr rfl), same⟩ rfl⟩
    intro group inside
    obtain ⟨other, member, sameGroup⟩ := filled.below group inside
    exact ⟨other, Ports.mem_members_add.mpr (.inl member), sameGroup⟩
  | refuses inTime refused behind =>
    rw [accepted] at refused
    cases refused

theorem sound_readAll (lines : List Line) : (initial.readAll lines).Sound := by
  induction lines using List.reverseRecOn with
  | nil => exact sound_initial
  | append_singleton lines line ih =>
    rw [readAll_concat]
    exact (effect_read _ line).sound ih

theorem steps_append (scanner : Scanner) (first second : List Line) :
    scanner.steps (first ++ second) =
      scanner.steps first ++ (scanner.readAll first).steps second := by
  induction first generalizing scanner with
  | nil => rfl
  | cons line first ih =>
    rw [List.cons_append, steps, steps, ih, List.cons_append, readAll_cons]

theorem steps_singleton (scanner : Scanner) (line : Line) :
    scanner.steps [line] = [scanner.read line] := rfl

theorem filled_readAll {lines : List Line}
    (accepted : ∀ step ∈ initial.steps lines, step.refused? = none) :
    (initial.readAll lines).Filled := by
  induction lines using List.reverseRecOn with
  | nil => exact filled_initial
  | append_singleton lines line ih =>
    rw [steps_append, steps_singleton, List.forall_mem_append] at accepted
    obtain ⟨before, here⟩ := accepted
    rw [readAll_concat]
    exact (effect_read _ line).filled (here _ (by simp)) (sound_readAll lines) (ih before)

/-- Every step of every run takes the scanner forward by one group or one port at most and leaves it
    sound, and if no line so far was refused it leaves no gap between the groups. -/
theorem advances_and_sound_of_steps (earlier : List Line) (line : Line) (later : List Line) :
    let before := initial.readAll earlier
    let step := before.read line
    initial.steps (earlier ++ line :: later) =
        initial.steps earlier ++ step :: step.scanner.steps later ∧
      before.Advances step ∧ step.scanner.Sound ∧
      ((∀ other ∈ initial.steps (earlier ++ [line]), other.refused? = none) →
        step.scanner.Filled) := by
  intro before step
  have effect : before.Effect step := effect_read before line
  have sound : before.Sound := sound_readAll earlier
  refine ⟨steps_append _ _ _, effect.advances, effect.sound sound, ?_⟩
  intro accepted
  have filled := filled_readAll accepted
  rwa [readAll_concat] at filled

theorem advances_and_sound_of_twoGroups :
    let earlier := (Reading.twoGroups.take 5).map String.toList
    let line := "data : INOUT std_logic_vector(7 downto 0);".toList
    let step := (initial.readAll earlier).read line
    (∀ other ∈ initial.steps (earlier ++ [line]), other.refused? = none) ∧
      (initial.readAll earlier).Advances step ∧ step.scanner.Sound ∧ step.scanner.Filled := by
  intro earlier line step
  have accepted : ∀ other ∈ initial.steps (earlier ++ [line]), other.refused? = none := by
    decide +kernel
  obtain ⟨-, advances, sound, filled⟩ := advances_and_sound_of_steps earlier line []
  exact ⟨accepted, advances, sound, filled accepted⟩

/-- A refused declaration that comes first in its group leaves a gap when a blank line follows,
    because the group counts as used and has no port. -/
theorem not_filled_of_isRefused (sound : scanner.Sound) (phase : scanner.phase = .inPorts)
    (empty : scanner.groupEmpty = true) {declaration blank : Line}
    (refused : declaration.isRefused = true) (kind : blank.kind = .blank) :
    ¬ (scanner.readAll [declaration, blank]).Filled := by
  obtain ⟨spelling, declares, turkish⟩ := Line.isRefused_iff.mp refused
  have marked : (scanner.read declaration).scanner = { scanner with groupEmpty := false } := by
    rw [read_of_inPorts phase, declares, readKind, declare_of_hasTurkishI scanner turkish]
  have behind : scanner.readAll [declaration, blank] =
      { scanner with group := scanner.group + 1, groupEmpty := true } := by
    rw [readAll_cons, marked, readAll_cons, read_of_inPorts (by exact phase), kind]
    rfl
  rw [behind]
  intro filled
  obtain ⟨port, member, same⟩ := filled.below scanner.group (Nat.lt_succ_self _)
  have below := sound.group_lt empty port member
  omega

end Scanner

end EntityDiagram
