import Workload.Proofs.Script.Block

/-! The script line by line. Its lines are those of the blocks as long as no text in it has a line
break of its own, and a shell that joins the lines that end in a backslash finds one command in each
block. -/
namespace Workload.Script

def Unbroken (s : String) : Prop := '\n' ∉ s.toList

instance (s : String) : Decidable (Unbroken s) := inferInstanceAs (Decidable ('\n' ∉ s.toList))

@[simp] theorem unbroken_append {a b : String} : Unbroken (a ++ b) ↔ Unbroken a ∧ Unbroken b := by
  simp [Unbroken]

@[simp] theorem unbroken_numeral (n : Nat) : Unbroken (numeral n) := by
  simpa [Unbroken, numeral] using Text.not_mem_digits (by decide) n

theorem unbroken_getD {value : Option String} (h : ∀ s ∈ value, Unbroken s) :
    Unbroken (value.getD "") := by
  cases value with
  | none => decide
  | some s => exact h s rfl

theorem unbroken_encode {v : Volume} (container : Unbroken v.container)
    (host : ∀ s ∈ v.host, Unbroken s) : Unbroken v.encode := by
  have parts : ∀ piece ∈ [v.host.getD "", v.container, if v.readOnly then "ro" else ""].map
      String.toList, '\n' ∉ piece := by
    simp only [List.map_cons, List.map_nil, List.forall_mem_cons]
    exact ⟨unbroken_getD host, container, by split <;> decide, List.forall_mem_nil _⟩
  rw [Unbroken, Volume.encode, String.toList_ofList]
  exact fun broken => Text.not_mem_join (by decide) parts (Text.mem_of_mem_trimWhile broken)

theorem unbroken_encode? {p : PortMapping} (address : ∀ s ∈ p.hostIp, Unbroken s) :
    Unbroken (p.encode?.getD "") := by
  have number (n : Nat) : '\n' ∉ Text.digits n := Text.not_mem_digits (by decide) n
  have segments : ∀ piece ∈ p.segments, '\n' ∉ piece := by
    intro piece mem
    simp only [PortMapping.segments, List.mem_append, List.mem_ite_nil_right, List.mem_cons,
      List.not_mem_nil, or_false] at mem
    obtain ⟨-, rfl | rfl⟩ | ⟨-, rfl⟩ := mem
    · exact unbroken_getD address
    · exact number _
    · exact number _
  have text : '\n' ∉ Text.trimWhile (· == ':') (Text.join ':' p.segments) :=
    fun broken => Text.not_mem_join (by decide) segments (Text.mem_of_mem_trimWhile broken)
  simp only [PortMapping.encode?]
  split
  · decide
  · cases p.protocol <;> simpa [Unbroken] using text

theorem unbroken_scalar {value : Option String} (h : ∀ s ∈ value, Unbroken s) :
    ∀ s ∈ scalar value, Unbroken s := by
  cases value with
  | none => exact List.forall_mem_nil _
  | some s =>
    rw [scalar]
    split
    · exact List.forall_mem_nil _
    · simpa using h s rfl

theorem unbroken_mode {own : Option String} {host : Bool} (h : ∀ s ∈ own, Unbroken s) :
    ∀ s ∈ mode own host, Unbroken s := by
  have given := unbroken_scalar h
  unfold mode
  split
  · decide
  · exact given

theorem unbroken_positive (n : Option UInt64) : ∀ s ∈ positive n, Unbroken s := by
  cases n with
  | none => exact List.forall_mem_nil _
  | some n =>
    rw [positive]
    split
    · exact List.forall_mem_nil _
    · simp

theorem unbroken_pairTexts {d : Dict String}
    (h : ∀ e ∈ d.entries, Unbroken e.1 ∧ Unbroken e.2) : ∀ s ∈ pairTexts d, Unbroken s := by
  intro s mem
  obtain ⟨e, listed, rfl⟩ := List.mem_map.1 mem
  have equals : Unbroken "=" := by decide
  simp [h e listed, equals]

/-- No text that the script shows of the container has a line break. -/
structure OneLine (c : Container) : Prop where
  name : Unbroken c.name
  scalars : ∀ value ∈ [c.image, c.command, c.entrypoint, c.workingDir, c.user, c.hostname,
    c.networkMode, c.pid, c.stopSignal], ∀ s ∈ value, Unbroken s
  lists : ∀ list ∈ [c.envFiles, c.dns, c.dnsSearch, c.volumesFrom, c.links, c.networks],
    ∀ s ∈ list, Unbroken s
  tables : ∀ d ∈ [c.environment, c.labels], ∀ e ∈ d.entries, Unbroken e.1 ∧ Unbroken e.2
  logging : ∀ l ∈ c.logging, Unbroken l.driver ∧
    ∀ e ∈ l.options.entries, Unbroken e.1 ∧ Unbroken e.2
  ports : ∀ p ∈ c.ports, ∀ ip ∈ p.hostIp, Unbroken ip
  volumes : ∀ v ∈ c.volumes, Unbroken v.container ∧ ∀ host ∈ v.host, Unbroken host

theorem unbroken_starts (g : Group) (c : Container) :
    ∀ start ∈ (documented g c).map (·.1), Unbroken start := by
  simp only [documented, List.map_cons, List.map_nil]
  decide

namespace OneLine
variable {c : Container} (h : OneLine c)
include h

theorem unbroken_logging :
    (∀ s ∈ c.logging.toList.map (·.driver), Unbroken s) ∧
      ∀ s ∈ c.logging.toList.flatMap fun l => pairTexts l.options, Unbroken s := by
  cases given : c.logging with
  | none => exact ⟨List.forall_mem_nil _, List.forall_mem_nil _⟩
  | some l =>
    obtain ⟨driver, options⟩ := h.logging l given
    simpa using ⟨driver, unbroken_pairTexts options⟩

theorem unbroken_documented (g : Group) :
    ∀ row ∈ documented g c, ∀ s ∈ row.2, Unbroken s := by
  have memory : ∀ s ∈ (positive c.memory).map (· ++ "b"), Unbroken s := by
    have unit : Unbroken "b" := by decide
    simpa [unit] using unbroken_positive c.memory
  have name : ∀ s ∈ scalar (some c.name), Unbroken s := unbroken_scalar (by simpa using h.name)
  have ports : ∀ s ∈ (c.ports.filter fun p => p.hostPort ≠ 0 ∨ p.containerPort ≠ 0).map
      fun p => p.encode?.getD "", Unbroken s := by
    intro s given
    obtain ⟨p, mem, rfl⟩ := List.mem_map.1 given
    exact unbroken_encode? (h.ports p (List.mem_of_mem_filter mem))
  have privileged : ∀ s ∈ if c.privileged then [""] else [], Unbroken s := by
    split <;> decide
  have volumes : ∀ s ∈ c.volumes.map Volume.encode, Unbroken s := by
    intro s given
    obtain ⟨v, mem, rfl⟩ := List.mem_map.1 given
    exact unbroken_encode (h.volumes v mem).1 (h.volumes v mem).2
  simp only [documented, List.forall_mem_cons]
  exact ⟨
    unbroken_positive c.cpuShares,
    h.lists c.dns (by simp),
    h.lists c.dnsSearch (by simp),
    unbroken_scalar (h.scalars c.entrypoint (by simp)),
    h.lists c.envFiles (by simp),
    unbroken_pairTexts (h.tables c.environment (by simp)),
    by simp,
    unbroken_scalar (h.scalars c.hostname (by simp)),
    unbroken_pairTexts (h.tables c.labels (by simp)),
    h.lists c.links (by simp),
    h.unbroken_logging.1,
    h.unbroken_logging.2,
    memory,
    name,
    h.lists c.networks (by simp),
    unbroken_mode (h.scalars c.networkMode (by simp)),
    unbroken_mode (h.scalars c.pid (by simp)),
    ports,
    privileged,
    unbroken_scalar (h.scalars c.stopSignal (by simp)),
    unbroken_scalar (h.scalars c.user (by simp)),
    volumes,
    h.lists c.volumesFrom (by simp),
    unbroken_scalar (h.scalars c.workingDir (by simp)),
    List.forall_mem_nil _⟩

theorem unbroken_heading : Unbroken (heading c) := by
  have before : Unbroken "######## " := by decide
  have after : Unbroken " ########" := by decide
  simp [heading, before, after, h.name]

theorem unbroken_closing : ∀ line ∈ closing c, Unbroken line := by
  have fixed : Unbroken "    " ∧ Unbroken "        " ∧ Unbroken " \\" := by decide
  have image := unbroken_getD (h.scalars c.image (by simp))
  have run := unbroken_scalar (h.scalars c.command (by simp))
  unfold closing
  split
  · simp [fixed, image]
  · rename_i given
    rw [given] at run
    simp [fixed, image, run]

theorem unbroken_flagLines (g : Group) : ∀ line ∈ flagLines g c, Unbroken line := by
  have fixed : Unbroken "    " ∧ Unbroken " \\" := by decide
  intro line mem
  obtain ⟨row, listed, mem⟩ := List.mem_flatMap.1 mem
  obtain ⟨s, given, rfl⟩ := List.mem_map.1 mem
  have start := unbroken_starts g c row.1 (List.mem_map_of_mem listed)
  simp [fixed, start, h.unbroken_documented g row listed s given]

theorem unbroken_block (g : Group) : ∀ line ∈ block g c, Unbroken line := by
  have docker : Unbroken "docker run \\" := by decide
  rw [block_eq, command, List.cons_append, List.forall_mem_cons, List.forall_mem_cons,
    List.forall_mem_append]
  exact ⟨h.unbroken_heading, docker, h.unbroken_flagLines g, h.unbroken_closing⟩

end OneLine

theorem splitAtChar_lines {lines : List String} (h : ∀ line ∈ lines, Unbroken line) :
    splitAtChar '\n' (String.join (lines.map (· ++ "\n"))) = lines ++ [""] := by
  unfold splitAtChar
  rw [String.toList_join]
  induction lines with
  | nil => rfl
  | cons line lines ih =>
    obtain ⟨first, others⟩ := List.forall_mem_cons.1 h
    have text : ((line :: lines).map (· ++ "\n")).flatMap String.toList =
        line.toList ++ '\n' :: (lines.map (· ++ "\n")).flatMap String.toList := by simp
    rw [text, List.splitOn_append_cons_self, List.splitOn_eq_singleton first, List.map_append,
      ih others]
    simp

/-! What the shell makes of the lines. -/

/-- The line ends in a backslash that no other one quotes, so the next line belongs to it. -/
def continues (line : String) : Bool :=
  (line.toList.reverse.takeWhile (· == '\\')).length % 2 == 1

/-- The lines, put together where one is continued by the next. -/
def logicalLines : List String → List (List String)
  | [] => []
  | line :: lines =>
    if continues line then
      match logicalLines lines with
      | [] => [[line]]
      | next :: others => (line :: next) :: others
    else [line] :: logicalLines lines

theorem continues_append (s : String) : continues (s ++ " \\") := by
  simp [continues]

theorem not_continues {line : String} (h : line.toList.getLast? ≠ some '\\') :
    continues line = false := by
  rw [← List.head?_reverse] at h
  unfold continues
  cases reversed : line.toList.reverse with
  | nil => rfl
  | cons c cs =>
    have other : c ≠ '\\' := by simpa [reversed] using h
    simp [other]

theorem logicalLines_append {front : List String} {last : String} (rest : List String)
    (continued : ∀ line ∈ front, continues line) (ends : continues last = false) :
    logicalLines (front ++ last :: rest) = (front ++ [last]) :: logicalLines rest := by
  induction front with
  | nil => simp [logicalLines, ends]
  | cons line front ih =>
    obtain ⟨first, others⟩ := List.forall_mem_cons.1 continued
    rw [List.cons_append, logicalLines, ih others]
    simp [first]

/-- The text that the last line of a command shows. -/
def lastText (c : Container) : String := (scalar c.command).head?.getD (c.image.getD "")

theorem continued_flagLines (g : Group) (c : Container) :
    ∀ line ∈ flagLines g c, ∃ s, line = s ++ " \\" := by
  intro line mem
  obtain ⟨row, -, mem⟩ := List.mem_flatMap.1 mem
  obtain ⟨v, -, rfl⟩ := List.mem_map.1 mem
  exact ⟨_, rfl⟩

theorem exists_command_eq (g : Group) (c : Container) :
    ∃ front indent, command g c = front ++ [indent ++ lastText c] ∧
      (∀ line ∈ front, ∃ s, line = s ++ " \\") ∧ (indent = "    " ∨ indent = "        ") := by
  have start : ∃ s, "docker run \\" = s ++ " \\" := ⟨"docker run", rfl⟩
  have flags := continued_flagLines g c
  unfold command closing lastText
  cases scalar c.command with
  | nil => exact ⟨_, "    ", rfl, List.forall_mem_cons.2 ⟨start, flags⟩, .inl rfl⟩
  | cons run others =>
    refine ⟨"docker run \\" :: flagLines g c ++ ["    " ++ c.image.getD "" ++ " \\"], "        ",
      by simp, ?_, .inr rfl⟩
    rw [List.forall_mem_append, List.forall_mem_cons]
    exact ⟨⟨start, flags⟩, by simp⟩

theorem lastText_ends {c : Container}
    (h : ∀ s ∈ c.image.toList ++ c.command.toList, s.toList.getLast? ≠ some '\\') :
    (lastText c).toList.getLast? ≠ some '\\' := by
  have image : (c.image.getD "").toList.getLast? ≠ some '\\' := by
    cases given : c.image with
    | none => decide
    | some s => exact h s (by simp [given])
  unfold lastText
  cases given : c.command with
  | none => exact image
  | some s =>
    rw [scalar]
    split
    · exact image
    · exact h s (by simp [given])

theorem last_line_ends {c : Container} {indent : String}
    (h : (lastText c).toList.getLast? ≠ some '\\') (blank : indent = "    " ∨ indent = "        ") :
    (indent ++ lastText c).toList.getLast? ≠ some '\\' := by
  rw [String.toList_append, List.getLast?_append]
  cases last : (lastText c).toList.getLast? with
  | none => rcases blank with rfl | rfl <;> decide
  | some d => simpa [last] using h

theorem logicalLines_blocks (g : Group) {cs : List Container}
    (h : ∀ c ∈ cs, (lastText c).toList.getLast? ≠ some '\\') :
    logicalLines (cs.flatMap fun c => heading c :: command g c) =
      cs.flatMap fun c => [[heading c], command g c] := by
  induction cs with
  | nil => rfl
  | cons c cs ih =>
    obtain ⟨first, others⟩ := List.forall_mem_cons.1 h
    obtain ⟨front, indent, lines, continued, blank⟩ := exists_command_eq g c
    have headed : continues (heading c) = false := by
      have last : " ########".toList.getLast? = some '#' := by decide
      apply not_continues
      rw [heading, String.toList_append, List.getLast?_append, last]
      nofun
    have before : ∀ line ∈ front, continues line := by
      intro line mem
      obtain ⟨s, rfl⟩ := continued line mem
      exact continues_append s
    have ends := not_continues (last_line_ends first blank)
    rw [List.flatMap_cons, List.flatMap_cons, List.cons_append, logicalLines, headed, lines,
      List.append_assoc, List.singleton_append, logicalLines_append _ before ends, ih others]
    rfl

/-- A script is its blocks in the order of the containers. Unless an image or a command ends in a
backslash itself, the shell reads each block as a heading and one command. -/
theorem emit_exact {g : Group} (h : ∀ c ∈ g.containers, OneLine c) :
    emit g = String.join (g.containers.map fun c =>
      String.join ((heading c :: command g c).map (· ++ "\n"))) ∧
    splitAtChar '\n' (emit g) =
      (g.containers.flatMap fun c => heading c :: command g c) ++ [""] ∧
    (∀ c ∈ g.containers, ∀ line ∈ (command g c).dropLast, ∃ s, line = s ++ " \\") ∧
    ((∀ c ∈ g.containers, ∀ s ∈ c.image.toList ++ c.command.toList,
        s.toList.getLast? ≠ some '\\') →
      (∀ c ∈ g.containers, ∀ line ∈ (command g c).getLast?,
        line.toList.getLast? ≠ some '\\') ∧
      logicalLines (splitAtChar '\n' (emit g)).dropLast =
        g.containers.flatMap fun c => [[heading c], command g c]) := by
  have blocks : g.containers.flatMap (block g) =
      g.containers.flatMap fun c => heading c :: command g c :=
    congrArg (List.flatMap · g.containers) (funext (block_eq g))
  have split : splitAtChar '\n' (emit g) =
      (g.containers.flatMap fun c => heading c :: command g c) ++ [""] := by
    rw [← blocks]
    apply splitAtChar_lines
    intro line mem
    obtain ⟨c, inside, mem⟩ := List.mem_flatMap.1 mem
    exact (h c inside).unbroken_block g line mem
  refine ⟨emit_eq_join g, split, fun c _ => ?_, fun plain => ⟨fun c inside => ?_, ?_⟩⟩
  · obtain ⟨front, indent, lines, continued, -⟩ := exists_command_eq g c
    rw [lines, List.dropLast_concat]
    exact continued
  · obtain ⟨front, indent, lines, -, blank⟩ := exists_command_eq g c
    rw [lines, List.getLast?_concat]
    rintro line ⟨⟩
    exact last_line_ends (lastText_ends (plain c inside)) blank
  · rw [split, List.dropLast_concat]
    exact logicalLines_blocks g fun c inside => lastText_ends (plain c inside)

def shop : Container where
  name := "shop"
  image := some "shop/web"
  command := some "serve --all"
  entrypoint := some ""
  cpuShares := some 0
  memory := some 512
  environment := Dict.empty.insert "PATH" "a\\"
  dns := ["10.0.0.1", "10.0.0.2"]
  ports := [{ containerPort := 0 }, { hostPort := 53, containerPort := 5353, protocol := .udp }]
  volumes := [{ host := some "/data", container := "/srv", readOnly := true }]
  networkMode := some ""
  pid := some "container:db"
  logging := some { driver := "", options := Dict.empty.insert "tag" "shop" }
  privileged := true

def shopGroup : Group where
  containers := [shop, { name := "" }]
  hostNetwork := true
  hostPid := true

theorem oneLine_shopGroup : ∀ c ∈ shopGroup.containers, OneLine c := by
  rw [shopGroup, List.forall_mem_cons, List.forall_mem_singleton]
  constructor
  · constructor <;> decide
  · constructor <;> decide

theorem emit_exact_shopGroup :
    (∀ c ∈ shopGroup.containers, OneLine c) ∧
    splitAtChar '\n' (emit shopGroup) = [
      "######## shop ########",
      "docker run \\",
      "    --dns 10.0.0.1 \\",
      "    --dns 10.0.0.2 \\",
      "    --env PATH=a\\ \\",
      "    --log-driver  \\",
      "    --log-opt tag=shop \\",
      "    --memory=512b \\",
      "    --name shop \\",
      "    --net host \\",
      "    --pid container:db \\",
      "    --publish 53:5353/udp \\",
      "    --privileged \\",
      "    --volume /data:/srv:ro \\",
      "    shop/web \\",
      "        serve --all",
      "########  ########",
      "docker run \\",
      "    --net host \\",
      "    --pid host \\",
      "    ",
      ""] ∧
    (logicalLines (splitAtChar '\n' (emit shopGroup)).dropLast).map List.length =
      [1, 15, 1, 4] := by
  obtain ⟨-, lines, -, commands⟩ := emit_exact oneLine_shopGroup
  obtain ⟨-, commands⟩ := commands (by decide)
  refine ⟨oneLine_shopGroup, lines.trans ?_, ?_⟩
  · decide +kernel
  · rw [commands]
    decide +kernel

end Workload.Script
