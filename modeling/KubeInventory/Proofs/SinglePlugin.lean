import KubeInventory.Cni.Network
import KubeInventory.Proofs.JsonPrefix
import Mathlib

/-! A plugin on its own and as the only one of a list. A file of one plugin is read as a network
just if the list that holds nothing else is, and as the same network if the list has the name and
the version of the plugin. -/

namespace KubeInventory

namespace Json

namespace Syntax

mutual

/-- How deep arrays and objects are nested in what is written. -/
def nesting : Syntax → Nat
  | .array items => nestingOfItems items + 1
  | .object fields => nestingOfFields fields + 1
  | _ => 0

def nestingOfItems : List Syntax → Nat
  | [] => 0
  | j :: rest => max (nesting j) (nestingOfItems rest)

def nestingOfFields : List (Literal × Syntax) → Nat
  | [] => 0
  | (_, j) :: rest => max (nesting j) (nestingOfFields rest)

end

theorem nesting_array_le_iff {items : List Syntax} {depth : Nat} :
    (array items).nesting ≤ depth + 1 ↔ ∀ j ∈ items, j.nesting ≤ depth := by
  rw [nesting, Nat.add_le_add_iff_right]
  induction items with
  | nil => simp [nestingOfItems]
  | cons j rest ih => rw [nestingOfItems, Nat.max_le, ih, List.forall_mem_cons]

theorem nesting_object_le_iff {fields : List (Literal × Syntax)} {depth : Nat} :
    (object fields).nesting ≤ depth + 1 ↔ ∀ field ∈ fields, field.2.nesting ≤ depth := by
  rw [nesting, Nat.add_le_add_iff_right]
  induction fields with
  | nil => simp [nestingOfFields]
  | cons field rest ih => rw [nestingOfFields, Nat.max_le, ih, List.forall_mem_cons]

/-- What is not nested too deeply means the same whatever the bound. -/
theorem value?_of_nesting_le {j : Syntax} {depth other : Nat} (h : j.nesting ≤ depth)
    (hOther : j.nesting ≤ other) : j.value? depth = j.value? other := by
  induction depth generalizing j other with
  | zero =>
      cases j with
      | array items => simp [nesting] at h
      | object fields => simp [nesting] at h
      | _ => cases other <;> rfl
  | succ depth ih =>
      cases other with
      | zero =>
          cases j with
          | array items => simp [nesting] at hOther
          | object fields => simp [nesting] at hOther
          | _ => rfl
      | succ other =>
          cases j with
          | array items =>
              rw [nesting_array_le_iff] at h hOther
              rw [value?, value?, mapM_congr fun j hMem => ih (h j hMem) (hOther j hMem)]
          | object fields =>
              rw [nesting_object_le_iff] at h hOther
              rw [value?, value?, mapM_congr fun field hMem => by
                rw [ih (h field hMem) (hOther field hMem)]]
          | _ => rfl

/-- The parts of a record are nested less deeply than the record. -/
theorem nesting_of_mem_record? {j part : Syntax} {names : List String}
    {parts : List (Option Syntax)} (h : j.record? names = some parts) (hPart : some part ∈ parts)
    {depth : Nat} (hNesting : j.nesting ≤ depth + 1) : part.nesting ≤ depth := by
  cases j with
  | array items =>
      rw [record?] at h
      split at h
      · cases h
      · obtain rfl := Option.some.inj h
        rcases List.mem_append.mp hPart with hItem | hMissing
        · exact nesting_array_le_iff.mp hNesting part (by simpa using hItem)
        · cases List.eq_of_mem_replicate hMissing
  | object fields =>
      obtain ⟨pairs, hPairs, hParts⟩ := Option.bind_eq_some_iff.mp h
      obtain ⟨name, -, hSingle⟩ := exists_of_mem_mapM hParts hPart
      obtain ⟨field, hField, hPair⟩ := exists_of_mem_mapM hPairs (Record.mem_of_single? hSingle)
      obtain ⟨key, -, hSame⟩ := Option.map_eq_some_iff.mp hPair
      rw [← (Prod.mk.inj hSame).2]
      exact nesting_object_le_iff.mp hNesting field hField
  | _ => cases h

end Syntax

section Wrapping

/-- A list of one plugin with a name and a version. -/
def inList (name version : String) (plugin : Syntax) : Syntax :=
  .object [(some "name", .string (some name)), (some "cniVersion", .string (some version)),
    (some "plugins", .array [plugin])]

/-- The text of a list of one plugin, given the text of the plugin. -/
def listText (name version plugin : String) : String :=
  String.ofList (['\x7b'] ++ fieldText ("name", quote name) ++ [',', ' '] ++
    fieldText ("cniVersion", quote version) ++ [',', ' '] ++
    fieldText ("plugins", ['['] ++ plugin.toList ++ [']']) ++ ['\x7d'])

/-- A plugin stands two levels down in its list. -/
theorem nesting_inList (name version : String) (plugin : Syntax) :
    (inList name version plugin).nesting = plugin.nesting + 2 := by
  simp [inList, Syntax.nesting, Syntax.nestingOfFields, Syntax.nestingOfItems]

variable {plugin : String} {j : Syntax} {rest : List Char} {fuel : Nat}

/-- The text of a value between brackets is that of an array of one item. -/
theorem value_singleton (h : read plugin = some j) (hFuel : plugin.toList.length + 3 ≤ fuel) :
    value fuel (' ' :: '[' :: (plugin.toList ++ ']' :: rest)) = some (.array [j], rest) := by
  obtain ⟨blanks, hValue, hBlanks⟩ := read_eq_some_iff.mp h
  obtain ⟨fuel, rfl⟩ := Nat.exists_eq_add_of_le' (show 2 ≤ fuel by omega)
  obtain ⟨c, tail, hStart, hOther⟩ := exists_cons_of_value hValue
  have hItem : value fuel (plugin.toList ++ ']' :: rest) = some (j, blanks ++ ']' :: rest) :=
    (framed _).value hValue endsNumber_bracket (by omega)
  have hClose : skipSpace (blanks ++ ']' :: rest) = ']' :: rest := by
    rw [skipSpace] at hBlanks ⊢
    rw [List.dropWhile_append, hBlanks]
    rfl
  rw [← value_skipSpace]
  show value (fuel + 2) ('[' :: (plugin.toList ++ ']' :: rest)) = _
  rw [value_array, elements_single hItem hClose, Option.map_some]
  rw [skipSpace_append hStart, List.head?_cons]
  exact fun hSame => hOther (Option.some.inj hSame)

theorem value_quote (text : String) (hFuel : (quote text).length ≤ fuel) :
    value fuel (' ' :: (quote text ++ ',' :: rest)) = some (.string (some text), ',' :: rest) :=
  (readsAs_pretty (.string text) 0).value_blank hFuel endsNumber_comma

theorem members_blank : members fuel (' ' :: rest) = members fuel rest := by
  have hBlank : skipSpace (' ' :: rest) = skipSpace rest := rfl
  rw [← members_skipSpace, hBlank, members_skipSpace]

theorem length_lt_fieldText (key : String) (text : List Char) :
    text.length < (fieldText (key, text)).length := by
  simp only [fieldText, List.length_append, List.length_cons]
  omega

/-- A field with a comma behind it is read with the fields that follow. -/
theorem members_fieldText {key : String} {text : List Char} {item : Syntax}
    (hItem : value fuel (' ' :: (text ++ ',' :: rest)) = some (item, ',' :: rest)) :
    members (fuel + 1) (fieldText (key, text) ++ ',' :: rest) =
      (members fuel rest).map fun (fields, rest) => ((some key, item) :: fields, rest) :=
  members_cons (skipSpace_fieldText 0 key text) (stringLiteral_flatMap_escapeChar key _) hItem rfl

/-- The last field is read up to the closing bracket. -/
theorem members_fieldText_single {key : String} {text : List Char} {item : Syntax}
    (hItem : value fuel (' ' :: (text ++ '\x7d' :: rest)) = some (item, '\x7d' :: rest)) :
    members (fuel + 1) (fieldText (key, text) ++ '\x7d' :: rest) =
      some ([(some key, item)], rest) :=
  members_single (skipSpace_fieldText 0 key text) (stringLiteral_flatMap_escapeChar key _) hItem rfl

theorem head?_skipSpace_fieldText (key : String) (text rest : List Char) :
    (skipSpace (fieldText (key, text) ++ rest)).head? = some '"' :=
  congrArg List.head? (skipSpace_fieldText 0 key text)

/-- Around the text of a plugin, the list is read that holds nothing else. -/
theorem read_listText (name version : String) (h : read plugin = some j) :
    read (listText name version plugin) = some (inList name version j) := by
  refine read_eq_some_iff.mpr ⟨[], ?_, rfl⟩
  have hText : (listText name version plugin).toList = '\x7b' ::
      (fieldText ("name", quote name) ++ ',' :: ' ' :: (fieldText ("cniVersion", quote version) ++
        ',' :: ' ' :: (fieldText ("plugins", '[' :: (plugin.toList ++ [']'])) ++ ['\x7d']))) := by
    simp [listText]
  rw [hText]
  simp only [List.length_cons, List.length_append]
  have hName := length_lt_fieldText "name" (quote name)
  have hVersion := length_lt_fieldText "cniVersion" (quote version)
  have hPlugin := length_lt_fieldText "plugins" ('[' :: (plugin.toList ++ [']']))
  simp only [List.length_cons, List.length_append] at hPlugin
  generalize hFuel : (fieldText ("name", quote name)).length + _ = fuel
  obtain ⟨fuel, rfl⟩ := Nat.exists_eq_add_of_le' (show 3 ≤ fuel by omega)
  have hItems : value (fuel + 1) (' ' :: '[' :: (plugin.toList ++ ']' :: ['\x7d'])) =
      some (.array [j], ['\x7d']) :=
    value_singleton h (by omega)
  have hField : members (fuel + 2) (fieldText ("plugins", '[' :: (plugin.toList ++ [']'])) ++
      ['\x7d']) = some ([(some "plugins", .array [j])], []) :=
    members_fieldText_single (by simpa using hItems)
  rw [value_object, members_fieldText (value_quote name (by omega)), members_blank,
    members_fieldText (value_quote version (by omega)), members_blank, hField]
  · rfl
  · rw [head?_skipSpace_fieldText]
    decide

end Wrapping

end Json

namespace Cni

open Json (Syntax)

/-- The text of an optional part, empty if the part is missing or null. -/
inductive GivesText : Option Syntax → String → Prop
  | missing : GivesText none ""
  | null : GivesText (some .null) ""
  | text (text : String) : GivesText (some (.string (some text))) text

/-- The name and the version that a plugin gives itself. -/
def GivesItself (plugin : Syntax) (name version : String) : Prop :=
  ∃ namePart versionPart others,
    plugin.record? Plugin.fieldNames = some (namePart :: versionPart :: others) ∧
      GivesText namePart name ∧ GivesText versionPart version

/-- How a part is read matters only if it is there. -/
theorem optional_congr {α : Type} {part : Option Syntax} {read other : Syntax → Option α}
    (h : ∀ j, part = some j → read j = other j) : optional part read = optional part other := by
  cases part with
  | none => rfl
  | some j =>
      have hSame := h j rfl
      cases j <;> simp only [optional, hSame]

/-- Deeper reading finds no more than what is there. -/
theorem Plugin.ofJson?_of_nesting_le {j : Syntax} {depth other : Nat} (h : j.nesting ≤ depth + 1)
    (hOther : j.nesting ≤ other + 1) : ofJson? (depth + 1) j = ofJson? (other + 1) j := by
  rw [ofJson?, ofJson?]
  cases hParts : j.record? fieldNames with
  | none => rfl
  | some parts =>
      have hValue {part : Option Syntax} (hMem : part ∈ parts) :
          optional part (Syntax.value? depth) = optional part (Syntax.value? other) := by
        refine optional_congr fun j hPart => ?_
        subst hPart
        exact Syntax.value?_of_nesting_le (Syntax.nesting_of_mem_record? hParts hMem h)
          (Syntax.nesting_of_mem_record? hParts hMem hOther)
      simp only [Option.bind_eq_bind, Option.bind_some]
      split
      · rw [hValue (by simp), hValue (by simp), hValue (by simp)]
      · rfl

/-- A list of one plugin is a network with the name and the version of the list. -/
theorem Network.ofJson?_inList (name version : String) (plugin : Syntax) (depth : Nat) :
    ofJson? (depth + 2) (Json.inList name version plugin) =
      (Plugin.ofJson? depth plugin).map fun p => ⟨name, version, false, [p]⟩ := by
  have hParts : (Json.inList name version plugin).record? fieldNames =
      some [some (.string (some name)), some (.string (some version)), none,
        some (.array [plugin])] := rfl
  rw [ofJson?, hParts]
  cases hPlugin : Plugin.ofJson? depth plugin <;>
    simp [Record.orElse, Syntax.string?, Syntax.array?, hPlugin]

theorem GivesText.getD_eq {part : Option Syntax} {text : String} (h : GivesText part text)
    {read : Option String} (hRead : optional part Syntax.string? = some read) :
    read.getD "" = text := by
  cases h with
  | text =>
      obtain rfl := Option.some.inj hRead
      rfl
  | _ =>
      obtain rfl := Option.some.inj hRead
      rfl

/-- A plugin that gives itself a name and a version is decoded with them. -/
theorem Plugin.name_of_ofJson? {j : Syntax} {name version : String}
    (hItself : GivesItself j name version) {depth : Nat} {p : Plugin}
    (h : ofJson? depth j = some p) :
    p.name.getD "" = name ∧ p.version.getD "" = version := by
  cases depth with
  | zero => cases h
  | succ depth =>
      obtain ⟨namePart, versionPart, others, hParts, hName, hVersion⟩ := hItself
      rw [ofJson?, hParts] at h
      simp only [Option.bind_eq_bind, Option.bind_some] at h
      split at h
      · rename_i hSame
        obtain ⟨rfl, rfl, -⟩ : _ ∧ _ ∧ _ := by simpa using hSame
        simp only [Option.bind_eq_some_iff] at h
        obtain ⟨readName, hReadName, readVersion, hReadVersion, _, -, _, -, _, -, _, -, hPlugin⟩ :=
          h
        obtain rfl := Option.some.inj hPlugin
        exact ⟨hName.getD_eq hReadName, hVersion.getD_eq hReadVersion⟩
      · cases h

/-- The list of one plugin is the network of the plugin under another name and version. -/
theorem Network.read?_list {plugin text : String} {j : Syntax} {name version : String}
    (hPlugin : Json.read plugin = some j)
    (hText : Json.read text = some (Json.inList name version j))
    (hNesting : (Json.inList name version j).nesting ≤ Json.depthLimit) :
    read? .list text =
      (read? .single plugin).map fun n => { n with name := name, version := version } := by
  rw [Json.nesting_inList, Json.depthLimit] at hNesting
  have hSame : Plugin.ofJson? Json.depthLimit j = Plugin.ofJson? 125 j :=
    Plugin.ofJson?_of_nesting_le (by omega) (by omega)
  have hList : ofJson? Json.depthLimit (Json.inList name version j) =
      (Plugin.ofJson? 125 j).map fun p => ⟨name, version, false, [p]⟩ :=
    ofJson?_inList name version j 125
  simp only [read?, hPlugin, hText, Option.bind_eq_bind, Option.bind_some, hSame, hList,
    Option.map_map]
  rfl

/-- A file of one plugin is read just if the list that holds nothing else is, whatever its name and
version, and as the same network if these are those of the plugin. The list may be written in any
way, such as around the text of the plugin. -/
theorem Network.single_means_list_of_one (plugin name version : String) (j : Syntax)
    (hPlugin : Json.read plugin = some j)
    (hNesting : (Json.inList name version j).nesting ≤ Json.depthLimit) :
    Json.read (Json.listText name version plugin) = some (Json.inList name version j) ∧
    ∀ text, Json.read text = some (Json.inList name version j) →
      ((read? .single plugin).isSome ↔ (read? .list text).isSome) ∧
      (GivesItself j name version → read? .list text = read? .single plugin) := by
  refine ⟨Json.read_listText name version hPlugin, fun text hText => ?_⟩
  rw [read?_list hPlugin hText hNesting]
  refine ⟨by rw [Option.isSome_map], fun hItself => ?_⟩
  simp only [read?, hPlugin, Option.bind_eq_bind, Option.bind_some]
  cases hRead : Plugin.ofJson? Json.depthLimit j with
  | none => rfl
  | some p =>
      obtain ⟨rfl, rfl⟩ := Plugin.name_of_ofJson? hItself hRead
      rfl

/-- The file of a bridge, with its version before its name and without addresses. -/
def bridgeText : String :=
  "\x7b\"cniVersion\": \"0.3.1\", \"name\": \"bridge-net\", \"type\": \"bridge\", " ++
    "\"mtu\": 1500, \"ipam\": null\x7d"

def bridge : Syntax :=
  .object [(some "cniVersion", .string (some "0.3.1")), (some "name", .string (some "bridge-net")),
    (some "type", .string (some "bridge")),
    (some "mtu", .number ⟨false, ['1', '5', '0', '0'], none, none⟩), (some "ipam", .null)]

theorem Network.single_means_list_of_one_bridge :
    Json.read bridgeText = some bridge ∧
    (Json.inList "bridge-net" "0.3.1" bridge).nesting ≤ Json.depthLimit ∧
    read? .list (Json.listText "bridge-net" "0.3.1" bridgeText) = read? .single bridgeText ∧
    (read? .single bridgeText).isSome = true := by
  have hRead : Json.read bridgeText = some bridge := by cbv
  have hNesting : (Json.inList "bridge-net" "0.3.1" bridge).nesting ≤ Json.depthLimit := by
    decide
  have hItself : GivesItself bridge "bridge-net" "0.3.1" :=
    ⟨_, _, _, rfl, .text "bridge-net", .text "0.3.1"⟩
  obtain ⟨hList, hSame⟩ := single_means_list_of_one bridgeText "bridge-net" "0.3.1" bridge hRead
    hNesting
  refine ⟨hRead, hNesting, (hSame _ hList).2 hItself, ?_⟩
  rw [read?, hRead]
  rfl

end Cni

end KubeInventory
