import Mathlib.Data.List.Forall2
import Mathlib.Data.List.Nodup
import Parley.Flow.Diagram
import Parley.Proofs.Validation

/-!
# What diagrams tell of graphs

A diagram draws every node under a name that is made of its id, and then an arrow for each edge and
a dotted one for each jump and each fallback. Every line of an arrow can be read back, so two
diagrams of the same nodes are the same if and only if their arrows join the same names. They still
do not tell all graphs apart: ids that differ only in characters that no name has are drawn under
one name, and a fallback to the node of the empty id is not drawn. But for these two they do.
-/

namespace Parley

/-- Items of a kind before one of another kind, or before none, are all that is taken of the
kind. -/
theorem takeWhile_front {α : Type} {p : α → Bool} {front rest : List α}
    (within : ∀ item ∈ front, p item = true) (stops : ∀ item ∈ rest.head?, p item = false) :
    (front ++ rest).takeWhile p = front := by
  rw [List.takeWhile_append_of_pos within]
  cases rest with
  | nil => exact List.append_nil front
  | cons item rest =>
    rw [List.takeWhile_cons, stops item rfl, if_neg Bool.false_ne_true, List.append_nil]

/-- What stands before the first item of another kind is told by the whole. -/
theorem append_inj_of_head {α : Type} {p : α → Bool} {front other rest more : List α}
    (fronts : ∀ item ∈ front, p item = true) (others : ∀ item ∈ other, p item = true)
    (rests : ∀ item ∈ rest.head?, p item = false) (mores : ∀ item ∈ more.head?, p item = false)
    (same : front ++ rest = other ++ more) : front = other ∧ rest = more := by
  have begun : front = other := by
    rw [← takeWhile_front fronts rests, same, takeWhile_front others mores]
  subst begun
  exact ⟨rfl, List.append_cancel_left same⟩

/-- What joins the items of two lists place by place is followed by what it implies of them. -/
theorem forall₂_imp_mem {α β : Type} {rel implied : α → β → Prop} {list : List α} {other : List β}
    (told : ∀ a ∈ list, ∀ b ∈ other, rel a b → implied a b) (joined : List.Forall₂ rel list other) :
    List.Forall₂ implied list other := by
  rw [List.forall₂_iff_zip] at joined ⊢
  exact ⟨joined.1, fun {a b} member =>
    told a (List.of_mem_zip member).1 b (List.of_mem_zip member).2 (joined.2 member)⟩

/-- Lists are mapped alike if their items are place by place. -/
theorem map_eq_iff_forall₂ {α β : Type} {f : α → β} {list other : List α} :
    list.map f = other.map f ↔ List.Forall₂ (fun a b => f a = f b) list other := by
  rw [← List.forall₂_eq_eq_eq, List.forall₂_map_left_iff, List.forall₂_map_right_iff]

/-- Lists that are mapped alike are mapped alike by what is told by that. -/
theorem map_eq_of_map {α β γ : Type} {f : α → β} {g : α → γ} {list other : List α}
    (told : ∀ a ∈ list, ∀ b ∈ other, f a = f b → g a = g b) (same : list.map f = other.map f) :
    list.map g = other.map g :=
  map_eq_iff_forall₂.mpr (forall₂_imp_mem told (map_eq_iff_forall₂.mp same))

/-- Lines without an end of line in them are told by their text. -/
theorem Text.lines_inj {lines others : List String} (whole : ∀ line ∈ lines, '\n' ∉ line.toList)
    (wholes : ∀ line ∈ others, '\n' ∉ line.toList)
    (same : (lines.flatMap fun line => '\n' :: line.toList) =
      others.flatMap fun line => '\n' :: line.toList) : lines = others := by
  have inside {line : String} (whole : '\n' ∉ line.toList) :
      ∀ c ∈ line.toList, (c != '\n') = true :=
    fun c member => bne_iff_ne.mpr fun ends => whole (ends ▸ member)
  have stops (lines : List String) :
      ∀ c ∈ (lines.flatMap fun line => '\n' :: line.toList).head?, (c != '\n') = false := by
    cases lines <;> simp
  induction lines generalizing others with
  | nil =>
    cases others with
    | nil => rfl
    | cons => cases same
  | cons line rest ih =>
    cases others with
    | nil => cases same
    | cons other more =>
      rw [List.forall_mem_cons] at whole wholes
      rw [List.flatMap_cons, List.flatMap_cons, List.cons_append, List.cons_append,
        List.cons.injEq] at same
      obtain ⟨first, later⟩ := append_inj_of_head (inside whole.1) (inside wholes.1) (stops rest)
        (stops more) same.2
      rw [String.toList_inj.mp first, ih whole.2 wholes.2 later]

namespace Flow

/-- What is drawn of an edge: its two nodes and its label. -/
def Edge.triple (edge : Edge) : String × Option String × String :=
  (edge.source, edge.label, edge.target)

/-- The target of a jump. -/
def Content.target? : Content → Option String
  | .goTo target => some target
  | _ => none

/-- Nodes are the same but for the target of a jump and for the fallback. -/
structure Node.Resembles (node other : Node String) : Prop where
  /-- The ids are the same. -/
  id : node.id = other.id
  /-- The types are the same. -/
  type : node.type = other.type
  /-- The contents are the same, or both are jumps. -/
  content : node.content = other.content ∨
    ∃ target goal, node.content = .goTo target ∧ other.content = .goTo goal

namespace Diagram

/-- An arrow between two nodes by the names under which they are drawn. -/
structure Link where
  /-- The name of the node where it begins. -/
  source : String
  /-- The arrow with what is written at it. -/
  arrow : String
  /-- The name of the node where it ends. -/
  target : String
deriving DecidableEq

namespace Link

/-- The line that draws an arrow. -/
def line (link : Link) : String := "    " ++ link.source ++ link.arrow ++ link.target

/-- An arrow is drawn with a full line. -/
def solid (link : Link) : Bool := link.arrow.toList[2]? == some '-'

/-- An arrow whose line can be read back. -/
structure Legible (link : Link) : Prop where
  /-- The name where it begins has the characters of names. -/
  source : ∀ c ∈ link.source.toList, isNameChar c = true
  /-- The name where it ends has the characters of names. -/
  target : ∀ c ∈ link.target.toList, isNameChar c = true
  /-- The arrow stands between blanks. -/
  framed : ∃ inner, link.arrow.toList = ' ' :: (inner ++ [' '])
  /-- There is no end of line in the arrow. -/
  whole : '\n' ∉ link.arrow.toList

/-- A line that can be read back tells its arrow. -/
theorem Legible.line_inj {link other : Link} (legible : link.Legible) (legibly : other.Legible)
    (same : link.line = other.line) : link = other := by
  obtain ⟨inner, framed⟩ := legible.framed
  obtain ⟨middle, frames⟩ := legibly.framed
  have characters := congrArg String.toList same
  simp only [line, String.toList_append, List.append_assoc, List.append_cancel_left_eq, framed,
    frames, List.cons_append] at characters
  obtain ⟨source, rest⟩ := append_inj_of_head legible.source legibly.source (by simp; decide)
    (by simp; decide) characters
  -- Read from its end, the line begins with the other name.
  have backwards := congrArg List.reverse (List.cons.inj rest).2
  simp only [List.reverse_append, List.reverse_cons, List.nil_append, List.append_assoc,
    List.cons_append] at backwards
  obtain ⟨target, arrow⟩ := append_inj_of_head (p := isNameChar)
    (by simpa using legible.target) (by simpa using legibly.target) (by simp; decide)
    (by simp; decide) backwards
  rw [List.reverse_inj] at target
  rw [List.cons.injEq, List.reverse_inj] at arrow
  have arrows : link.arrow.toList = other.arrow.toList := by rw [framed, frames, arrow.2]
  cases link
  cases other
  simp only [Link.mk.injEq]
  exact ⟨String.toList_inj.mp source, String.toList_inj.mp arrows, String.toList_inj.mp target⟩

/-- There is no end of line in a line that can be read back. -/
theorem Legible.line_whole {link : Link} (legible : link.Legible) : '\n' ∉ link.line.toList := by
  have names {name : String} (plain : ∀ c ∈ name.toList, isNameChar c = true) :
      '\n' ∉ name.toList := fun member => absurd (plain _ member) (by decide)
  simp only [line, String.toList_append, List.mem_append, not_or]
  exact ⟨⟨⟨by decide, names legible.source⟩, legible.whole⟩, names legible.target⟩

end Link

/-- The arrow of an edge with a label. -/
def arrow : Option String → String
  | some label => if label = "" then " --> " else " -->|" ++ label ++ "| "
  | none => " --> "

/-- The arrow of an edge between its drawn nodes. -/
def edgeLink (edge : Edge) : Link :=
  ⟨drawnName edge.source, arrow edge.label, drawnName edge.target⟩

/-- A dotted arrow with a mark between two drawn nodes. -/
def dottedLink (id mark target : String) : Link :=
  ⟨drawnName id, " -.->|" ++ mark ++ "| ", drawnName target⟩

/-- The fallback of a node that is drawn: none leads to the node of the empty id. -/
def drawnFallback (node : Node String) : Option String := node.onError.filter (· ≠ "")

/-- The dotted arrows of a node's jump and fallback. -/
def dottedLinks (node : Node String) : List Link :=
  node.content.target?.toList.map (dottedLink node.id "goTo") ++
    (drawnFallback node).toList.map (dottedLink node.id "error")

/-- The arrows of a graph in the order in which they are drawn. -/
def links (graph : Graph) : List Link :=
  graph.edges.map edgeLink ++ graph.nodes.flatMap dottedLinks

/-- The line of an edge draws its arrow. -/
theorem edgeLine_eq (edge : Edge) : edgeLine edge = (edgeLink edge).line := by
  unfold edgeLine edgeLink arrow
  cases edge.label <;> rfl

/-- A dotted line draws its arrow. -/
theorem dotted_eq (id mark target : String) :
    dotted id mark target = (dottedLink id mark target).line := by
  simp only [dotted, dottedLink, Link.line, String.append_assoc]

/-- The dotted lines of a node draw its dotted arrows. -/
theorem dottedLines_eq (node : Node String) :
    dottedLines node = (dottedLinks node).map Link.line := by
  rw [dottedLines, dottedLinks, List.map_append]
  congr 1
  · cases node.content <;> simp [Content.target?, dotted_eq]
  · unfold drawnFallback
    cases node.onError with
    | none => rfl
    | some fallback => by_cases empty : fallback = "" <;> simp [empty, dotted_eq, Option.filter]

/-- A diagram has lines for its nodes and then the lines of its arrows. -/
theorem draw_eq (direction : String) (details : Bool) (graph : Graph) :
    draw direction details graph = Text.join "\n" (("flowchart " ++ direction) ::
      (graph.nodes.flatMap (nodeLines details) ++ (links graph).map Link.line)) := by
  have edges : graph.edges.map edgeLine = (graph.edges.map edgeLink).map Link.line := by
    rw [List.map_map]
    exact List.map_congr_left fun edge _ => edgeLine_eq edge
  have dots : graph.nodes.flatMap dottedLines =
      (graph.nodes.flatMap dottedLinks).map Link.line := by
    rw [List.map_flatMap]
    exact List.flatMap_congr fun node _ => dottedLines_eq node
  rw [draw, edges, dots, links, List.map_append, List.append_assoc, List.append_assoc]
  rfl

/-- The names of drawn nodes have the characters of names. -/
theorem drawnName_plain (id : String) : ∀ c ∈ (drawnName id).toList, isNameChar c = true := by
  have blurred (c : Char) : isNameChar (if isNameChar c then c else '_') = true := by
    split
    · assumption
    · decide
  have front : "n_".toList.all isNameChar = true := by decide
  rw [drawnName, String.toList_append, List.forall_mem_append]
  refine ⟨List.all_eq_true.mp front, ?_⟩
  rw [String.toList_ofList, List.forall_mem_map]
  exact fun c _ => blurred c

/-- The arrow of an edge with a valid label can be read back and has a full line. -/
theorem edgeLink_legible {edge : Edge} (valid : validLabel edge.label = true) :
    (edgeLink edge).Legible ∧ (edgeLink edge).solid = true := by
  have drawn : (∃ inner, (arrow edge.label).toList = ' ' :: (inner ++ [' '])) ∧
      '\n' ∉ (arrow edge.label).toList ∧ (arrow edge.label).toList[2]? = some '-' := by
    rcases validLabel_iff.mp valid with label | label | label <;> rw [label]
    · exact ⟨⟨"-->".toList, by decide⟩, by decide, by decide⟩
    · exact ⟨⟨"-->|yes|".toList, by decide⟩, by decide, by decide⟩
    · exact ⟨⟨"-->|no|".toList, by decide⟩, by decide, by decide⟩
  exact ⟨⟨drawnName_plain _, drawnName_plain _, drawn.1, drawn.2.1⟩, beq_iff_eq.mpr drawn.2.2⟩

/-- The dotted arrows of a node can be read back and have no full lines. -/
theorem dottedLinks_legible (node : Node String) :
    ∀ link ∈ dottedLinks node, link.Legible ∧ link.solid = false := by
  have dots (mark target : String)
      (drawn : (∃ inner, (" -.->|" ++ mark ++ "| ").toList = ' ' :: (inner ++ [' '])) ∧
        '\n' ∉ (" -.->|" ++ mark ++ "| ").toList ∧
        (" -.->|" ++ mark ++ "| ").toList[2]? = some '.') :
      (dottedLink node.id mark target).Legible ∧
        (dottedLink node.id mark target).solid = false :=
    ⟨⟨drawnName_plain _, drawnName_plain _, drawn.1, drawn.2.1⟩, by
      rw [Link.solid, dottedLink, drawn.2.2]
      decide⟩
  rw [dottedLinks, List.forall_mem_append, List.forall_mem_map, List.forall_mem_map]
  constructor
  · exact fun target _ =>
      dots "goTo" target ⟨⟨"-.->|goTo|".toList, by decide⟩, by decide, by decide⟩
  · exact fun target _ =>
      dots "error" target ⟨⟨"-.->|error|".toList, by decide⟩, by decide, by decide⟩

/-- The arrows of a graph whose labels are valid can be read back. -/
theorem links_legible {graph : Graph}
    (valid : ∀ edge ∈ graph.edges, validLabel edge.label = true) :
    ∀ link ∈ links graph, link.Legible := by
  rw [links, List.forall_mem_append, List.forall_mem_map, List.forall_mem_flatMap]
  exact ⟨fun edge member => (edgeLink_legible (valid edge member)).1,
    fun node _ link member => (dottedLinks_legible node link member).1⟩

/-- The arrows of a graph tell those of its edges and those of its nodes. -/
theorem links_inj {graph other : Graph}
    (valid : ∀ edge ∈ graph.edges, validLabel edge.label = true)
    (validly : ∀ edge ∈ other.edges, validLabel edge.label = true)
    (same : links graph = links other) :
    graph.edges.map edgeLink = other.edges.map edgeLink ∧
      graph.nodes.flatMap dottedLinks = other.nodes.flatMap dottedLinks := by
  have full {graph : Graph} (valid : ∀ edge ∈ graph.edges, validLabel edge.label = true) :
      ∀ link ∈ graph.edges.map edgeLink, link.solid = true :=
    List.forall_mem_map.mpr fun edge member => (edgeLink_legible (valid edge member)).2
  have dots (graph : Graph) :
      ∀ link ∈ (graph.nodes.flatMap dottedLinks).head?, link.solid = false := by
    intro link first
    obtain ⟨node, -, drawn⟩ := List.mem_flatMap.mp (List.mem_of_head? first)
    exact (dottedLinks_legible node link drawn).2
  exact append_inj_of_head (full valid) (full validly) (dots graph) (dots other) same

/-- Nodes that are the same but for targets and fallbacks are drawn alike. -/
theorem nodeLines_eq {nodes others : List (Node String)}
    (alike : List.Forall₂ Node.Resembles nodes others) (details : Bool) :
    nodes.flatMap (nodeLines details) = others.flatMap (nodeLines details) := by
  induction alike with
  | nil => rfl
  | @cons node other _ _ first _ ih =>
    have detailed : detail node.content = detail other.content := by
      rcases first.content with same | ⟨target, goal, jump, jumps⟩
      · rw [same]
      · rw [jump, jumps]
        rfl
    have lines : nodeLines details node = nodeLines details other := by
      rw [nodeLines, nodeLines, label, label, first.id, first.type, detailed]
    rw [List.flatMap_cons, List.flatMap_cons, lines, ih]

/-- Diagrams of the same nodes are the same if and only if their arrows are. -/
theorem draw_eq_iff {graph other : Graph}
    (valid : ∀ edge ∈ graph.edges, validLabel edge.label = true)
    (validly : ∀ edge ∈ other.edges, validLabel edge.label = true)
    (alike : List.Forall₂ Node.Resembles graph.nodes other.nodes) (direction : String)
    (details : Bool) :
    draw direction details graph = draw direction details other ↔ links graph = links other := by
  rw [draw_eq, draw_eq, nodeLines_eq alike]
  constructor
  · intro same
    have characters := congrArg String.toList same
    rw [Text.toList_join, Text.toList_join, List.append_cancel_left_eq, List.flatMap_append,
      List.flatMap_append, List.append_cancel_left_eq] at characters
    have whole {graph : Graph} (valid : ∀ edge ∈ graph.edges, validLabel edge.label = true) :
        ∀ line ∈ (links graph).map Link.line, '\n' ∉ line.toList :=
      List.forall_mem_map.mpr fun link member => (links_legible valid link member).line_whole
    have lines := Text.lines_inj (whole valid) (whole validly) characters
    have told := map_eq_of_map (g := id) (fun link first second last =>
      (links_legible valid link first).line_inj (links_legible validly second last)) lines
    rwa [List.map_id, List.map_id] at told
  · intro same
    rw [same]

section Names

variable {nodes others : List (Node String)}
  (alike : List.Forall₂ Node.Resembles nodes others)

include alike

/-- Nodes that are the same but for targets and fallbacks have the same ids. -/
theorem ids_eq : nodes.map Node.id = others.map Node.id := by
  induction alike with
  | nil => rfl
  | cons first _ ih => rw [List.map_cons, List.map_cons, first.id, ih]

/-- Where no two nodes are drawn under one name, the dotted arrows of all tell those of each. -/
theorem dottedLinks_inj (apart : ((nodes.map Node.id).map drawnName).Nodup)
    (same : nodes.flatMap dottedLinks = others.flatMap dottedLinks) :
    List.Forall₂ (fun node other => node.Resembles other ∧ dottedLinks node = dottedLinks other)
      nodes others := by
  have begins (node : Node String) :
      ∀ link ∈ dottedLinks node, link.source = drawnName node.id := by
    rw [dottedLinks, List.forall_mem_append, List.forall_mem_map, List.forall_mem_map]
    exact ⟨fun _ _ => rfl, fun _ _ => rfl⟩
  induction alike with
  | nil => exact .nil
  | @cons node other rest more first later ih =>
    rw [List.map_cons, List.map_cons, List.nodup_cons] at apart
    rw [List.flatMap_cons, List.flatMap_cons] at same
    have others {nodes : List (Node String)} (ids : rest.map Node.id = nodes.map Node.id) :
        ∀ link ∈ (nodes.flatMap dottedLinks).head?,
          (link.source == drawnName node.id) = false := by
      intro link head
      obtain ⟨next, member, drawn⟩ := List.mem_flatMap.mp (List.mem_of_head? head)
      rw [beq_eq_false_iff_ne, begins next link drawn]
      intro named
      exact apart.1 (named ▸ List.mem_map_of_mem (ids ▸ List.mem_map_of_mem member))
    obtain ⟨own, left⟩ := append_inj_of_head (p := fun link => link.source == drawnName node.id)
      (fun link member => beq_iff_eq.mpr (begins node link member))
      (fun link member => beq_iff_eq.mpr (first.id ▸ begins other link member))
      (others rfl) (others (ids_eq later)) same
    exact .cons ⟨first, own⟩ (ih apart.2 left)

end Names

/-- A character is drawn as a low line. -/
def Blank (c : Char) : Prop := c = '_' ∨ isNameChar c = false

/-- Two ids are drawn under one name if they have the same characters at the same places but for
those that are drawn as a low line. -/
theorem drawnName_eq_iff {id other : String} :
    drawnName id = drawnName other ↔
      List.Forall₂ (fun c d => c = d ∨ Blank c ∧ Blank d) id.toList other.toList := by
  have blurs (c d : Char) : (if isNameChar c then c else '_') = (if isNameChar d then d else '_') ↔
      c = d ∨ Blank c ∧ Blank d := by
    unfold Blank
    split <;> split <;> grind
  rw [drawnName, drawnName, String.append_right_inj, String.ofList_inj, ← List.forall₂_eq_eq_eq,
    List.forall₂_map_left_iff, List.forall₂_map_right_iff]
  exact ⟨fun same => same.imp fun c d => (blurs c d).mp,
    fun same => same.imp fun c d => (blurs c d).mpr⟩

/-- Valid labels are told by their arrows. -/
theorem arrow_inj {label other : Option String} (valid : validLabel label = true)
    (validly : validLabel other = true) (same : arrow label = arrow other) : label = other := by
  rcases validLabel_iff.mp valid with rfl | rfl | rfl <;>
    rcases validLabel_iff.mp validly with rfl | rfl | rfl <;>
      first | rfl | exact absurd same (by decide)

/-- Options of which dotted arrows of one mark are drawn alike are the same, if the names tell what
they hold. -/
theorem toList_dottedLink_inj {id mark : String} {target goal : Option String}
    (told : ∀ a ∈ target, ∀ b ∈ goal, drawnName a = drawnName b → a = b)
    (same : target.toList.map (dottedLink id mark) = goal.toList.map (dottedLink id mark)) :
    target = goal := by
  cases target <;> cases goal
  · rfl
  · cases same
  · cases same
  · rename_i a b
    simp only [Option.toList_some, List.map_cons, List.map_nil, List.cons.injEq, dottedLink,
      Link.mk.injEq, true_and, and_true] at same
    rw [told a rfl b rfl same]

/-- The dotted arrows of nodes that are the same but for targets and fallbacks tell these, if the
names tell the ids. -/
theorem dottedLinks_tell {node other : Node String} {ids : List String}
    (told : ∀ a ∈ ids, ∀ b ∈ ids, drawnName a = drawnName b → a = b)
    (alike : node.Resembles other)
    (leads : (∀ target, node.content = .goTo target → target ∈ ids) ∧
      ∀ fallback, node.onError = some fallback → fallback ∈ ids)
    (leading : (∀ target, other.content = .goTo target → target ∈ ids) ∧
      ∀ fallback, other.onError = some fallback → fallback ∈ ids)
    (same : dottedLinks node = dottedLinks other) :
    node.content = other.content ∧ drawnFallback node = drawnFallback other := by
  have jumps : node.content.target?.isSome = other.content.target?.isSome := by
    rcases alike.content with same | ⟨target, goal, jump, jumps⟩
    · rw [same]
    · rw [jump, jumps]
      rfl
  have counted : (node.content.target?.toList.map (dottedLink node.id "goTo")).length =
      (other.content.target?.toList.map (dottedLink other.id "goTo")).length := by
    revert jumps
    cases node.content.target? <;> cases other.content.target? <;> simp
  obtain ⟨jump, falls⟩ := List.append_inj same counted
  rw [alike.id] at jump falls
  constructor
  · have target : node.content.target? = other.content.target? := by
      refine toList_dottedLink_inj (fun a first b second => ?_) jump
      have goes {content : Content} {target : String} (held : target ∈ content.target?) :
          content = .goTo target := by
        cases content <;> simp_all [Content.target?]
      exact told a (leads.1 a (goes first)) b (leading.1 b (goes second))
    rcases alike.content with same | ⟨target, goal, jump, jumps⟩
    · exact same
    · simp_all [Content.target?]
  · refine toList_dottedLink_inj (fun a first b second => ?_) falls
    have kept {node : Node String} {fallback : String} (held : fallback ∈ drawnFallback node) :
        node.onError = some fallback := by
      simp_all [drawnFallback, Option.filter_eq_some_iff]
    exact told a (leads.2 a (kept first)) b (leading.2 b (kept second))

section Loaded

variable {extensions others : Extensions} {raw another : Value} {graph other : Graph}

/-- The edges of a loaded graph have valid labels. -/
theorem load_labels (loaded : load extensions raw = .ok graph) :
    ∀ edge ∈ graph.edges, validLabel edge.label = true := by
  unfold load at loaded
  split at loaded
  · simp only [Computation.bind_eq_ok] at loaded
    obtain ⟨_, -, _, -, _, -, _, -, _, -, _, -, assembled⟩ := loaded
    exact Graph.labels_of_assemble assembled
  · cases loaded

variable (loaded : load extensions raw = .ok graph) (loadedOther : load others another = .ok other)
  (alike : List.Forall₂ Node.Resembles graph.nodes other.nodes) (direction : String)
  (details : Bool)

include loaded loadedOther alike

/-- Loaded graphs with the same nodes have the same diagram if and only if their edges and their
dotted arrows join the same drawn names. -/
theorem draw_iff_links :
    draw direction details graph = draw direction details other ↔
      graph.edges.map edgeLink = other.edges.map edgeLink ∧
        graph.nodes.flatMap dottedLinks = other.nodes.flatMap dottedLinks := by
  have valid := load_labels loaded
  have validly := load_labels loadedOther
  rw [draw_eq_iff valid validly alike]
  refine ⟨links_inj valid validly, fun ⟨edges, dots⟩ => ?_⟩
  rw [links, links, edges, dots]

/-- Loaded graphs with the same nodes, no two under one drawn name, have the same diagram if and
only if their edges join the same nodes under the same labels, and their nodes have the same targets
and the same fallbacks, as far as these are drawn. -/
theorem draw_iff_same (apart : (graph.ids.map drawnName).Nodup) :
    draw direction details graph = draw direction details other ↔
      graph.edges.map Edge.triple = other.edges.map Edge.triple ∧
        List.Forall₂ (fun node next => node.content = next.content ∧
          drawnFallback node = drawnFallback next) graph.nodes other.nodes := by
  have sound := load_sound loaded
  have soundly := load_sound loadedOther
  have ids : other.ids = graph.ids := (ids_eq alike).symm
  have told : ∀ a ∈ graph.ids, ∀ b ∈ graph.ids, drawnName a = drawnName b → a = b :=
    fun a first b second => List.inj_on_of_nodup_map apart first second
  rw [draw_iff_links loaded loadedOther alike]
  constructor
  · rintro ⟨edges, dots⟩
    constructor
    · refine map_eq_of_map (fun edge first next second same => ?_) edges
      have ends := sound.ends edge first
      have nextEnds := ids ▸ soundly.ends next second
      obtain ⟨source, label, target⟩ := Link.mk.inj same
      rw [Edge.triple, Edge.triple, told _ ends.1 _ nextEnds.1 source,
        told _ ends.2 _ nextEnds.2 target,
        arrow_inj (load_labels loaded edge first) (load_labels loadedOther next second) label]
    · refine forall₂_imp_mem (fun node first next second both => ?_)
        (dottedLinks_inj alike apart dots)
      refine dottedLinks_tell told both.1 ⟨sound.targets node first, sound.fallbacks node first⟩ ?_
        both.2
      rw [← ids]
      exact ⟨soundly.targets next second, soundly.fallbacks next second⟩
  · rintro ⟨edges, nodes⟩
    constructor
    · refine map_eq_of_map (fun edge _ next _ same => ?_) edges
      simp only [Edge.triple, Prod.mk.injEq] at same
      rw [edgeLink, edgeLink, same.1, same.2.1, same.2.2]
    · have marked : graph.nodes.map dottedLinks = other.nodes.map dottedLinks := by
        refine map_eq_iff_forall₂.mpr
          (List.Forall₂.mp (fun node next first second => ?_) alike nodes)
        rw [dottedLinks, dottedLinks, first.id, second.1, second.2]
      rw [List.flatMap_def, List.flatMap_def, marked]

omit loaded loadedOther in
/-- Nodes that are the same but for targets and fallbacks are the same if these are drawn alike and
no fallback is the node of the empty id. -/
theorem nodes_eq
    (same : List.Forall₂ (fun node next => node.content = next.content ∧
      drawnFallback node = drawnFallback next) graph.nodes other.nodes)
    (named : ∀ node ∈ graph.nodes ++ other.nodes, node.onError ≠ some "") :
    graph.nodes = other.nodes := by
  have fallback {node : Node String} (named : node.onError ≠ some "") :
      drawnFallback node = node.onError := by
    unfold drawnFallback
    cases held : node.onError with
    | none => rfl
    | some fallback =>
      have filled : fallback ≠ "" := fun empty => named (by rw [held, empty])
      simp [Option.filter, filled]
  rw [List.forall_mem_append] at named
  rw [← List.forall₂_eq_eq_eq]
  refine forall₂_imp_mem (fun node first next second both => ?_)
    (List.Forall₂.mp (fun _ _ => And.intro) alike same)
  obtain ⟨joined, content, falls⟩ := both
  rw [fallback (named.1 node first), fallback (named.2 next second)] at falls
  cases node
  cases next
  simp only [Node.mk.injEq]
  exact ⟨joined.id, joined.type, content, falls⟩

/-- Two loaded graphs with the same nodes but for targets and fallbacks have the same diagram if and
only if their arrows join the same drawn names. If no two nodes are drawn under one name, that is if
and only if their edges join the same nodes under the same labels, and their nodes have the same
targets and the same drawn fallbacks; then, if no fallback is the node of the empty id either, the
diagrams of different graphs differ. Two ids have one drawn name if they differ only in characters
that no name has. -/
theorem draw_tells :
    (draw direction details graph = draw direction details other ↔
      graph.edges.map edgeLink = other.edges.map edgeLink ∧
        graph.nodes.flatMap dottedLinks = other.nodes.flatMap dottedLinks) ∧
    ((graph.ids.map drawnName).Nodup →
      (draw direction details graph = draw direction details other ↔
        graph.edges.map Edge.triple = other.edges.map Edge.triple ∧
          List.Forall₂ (fun node next => node.content = next.content ∧
            drawnFallback node = drawnFallback next) graph.nodes other.nodes) ∧
      ((∀ node ∈ graph.nodes ++ other.nodes, node.onError ≠ some "") →
        graph.edges.map Edge.triple ≠ other.edges.map Edge.triple ∨ graph.nodes ≠ other.nodes →
        draw direction details graph ≠ draw direction details other)) ∧
    (∀ id next, drawnName id = drawnName next ↔
      List.Forall₂ (fun c d => c = d ∨ Blank c ∧ Blank d) id.toList next.toList) := by
  refine ⟨draw_iff_links loaded loadedOther alike direction details, fun apart => ?_,
    fun id next => drawnName_eq_iff⟩
  have told := draw_iff_same loaded loadedOther alike direction details apart
  refine ⟨told, fun named differ drawn => ?_⟩
  obtain ⟨edges, nodes⟩ := told.mp drawn
  exact differ.elim (fun other => other edges) fun other => other (nodes_eq alike nodes named)

end Loaded

/-- The graph of nodes and edges that starts at a node in. -/
def begun (nodes : List (Node String)) (edges : List Edge) : Graph where
  id := "begun"
  name := "begun"
  nodes := ⟨"in", "start", .start, none⟩ :: nodes
  edges := edges
  index := edges.foldl Index.add (("in", []) :: nodes.map fun node => (node.id, []))
  start := "in"

/-- A graph that ends, with a jump beside. -/
def jumping (target : String) : Graph :=
  begun [⟨"jump", "goTo", .goTo target, none⟩, ⟨"out", "end", .finish, none⟩]
    [⟨"e", "in", "out", none⟩]

/-- Graphs whose jumps lead to different nodes have different diagrams. -/
theorem jumping_drawn :
    load [] (jumping "in").toValue = .ok (jumping "in") ∧
      load [] (jumping "out").toValue = .ok (jumping "out") ∧
      draw "LR" true (jumping "in") ≠ draw "LR" true (jumping "out") := by
  have first : load [] (jumping "in").toValue = .ok (jumping "in") := by with_unfolding_all rfl
  have second : load [] (jumping "out").toValue = .ok (jumping "out") := by with_unfolding_all rfl
  have alike : List.Forall₂ Node.Resembles (jumping "in").nodes (jumping "out").nodes :=
    .cons ⟨rfl, rfl, .inl rfl⟩ (.cons ⟨rfl, rfl, .inr ⟨"in", "out", rfl, rfl⟩⟩
      (.cons ⟨rfl, rfl, .inl rfl⟩ .nil))
  obtain ⟨-, apart, -⟩ := draw_tells first second alike "LR" true
  exact ⟨first, second, (apart (by decide)).2 (by decide) (.inr (by decide))⟩

/-- A graph that ends at one of two nodes whose ids differ in a sign. -/
def ending (target : String) : Graph :=
  begun [⟨"a-b", "end", .finish, none⟩, ⟨"a.b", "end", .finish, none⟩]
    [⟨"e", "in", target, none⟩]

/-- A graph whose start falls back to some node; there is one of the empty id. -/
def falling (fallback : Option String) : Graph :=
  { begun [⟨"", "end", .finish, none⟩] [⟨"e", "in", "", none⟩] with
    nodes := [⟨"in", "start", .start, fallback⟩, ⟨"", "end", .finish, none⟩] }

/-- Two nodes are drawn under one name, and a fallback to the node of the empty id is not drawn, so
that different graphs have the same diagram. -/
theorem drawn_alike :
    load [] (ending "a-b").toValue = .ok (ending "a-b") ∧
      load [] (ending "a.b").toValue = .ok (ending "a.b") ∧
      (ending "a-b").nodes = (ending "a.b").nodes ∧
      (ending "a-b").edges.map Edge.triple ≠ (ending "a.b").edges.map Edge.triple ∧
      draw "TD" true (ending "a-b") = draw "TD" true (ending "a.b") ∧
    load [] (falling (some "")).toValue = .ok (falling (some "")) ∧
      load [] (falling none).toValue = .ok (falling none) ∧
      (falling (some "")).nodes ≠ (falling none).nodes ∧
      draw "TD" true (falling (some "")) = draw "TD" true (falling none) :=
  ⟨by with_unfolding_all rfl, by with_unfolding_all rfl, rfl, by decide, by decide +kernel,
    by with_unfolding_all rfl, by with_unfolding_all rfl, by decide, by decide +kernel⟩

end Diagram

end Flow

end Parley
