/-
Tables under construction.

A statement takes nothing away from a document: what has a member keeps it, and a table keeps
its members (`grows_of_add`).  So the name of a key or of a header is found in the document,
whatever the other statements say (`exists_of_opens`, `exists_of_sets`).  Tables with a header each
and keys of one part come out as they were written (`ofStatements_tables`).
-/
import RoverMission.Toml

namespace RoverMission
namespace Toml

/-- Whether a statement sets a key whose first part is a name. -/
def Statement.Sets (name : Text) : Statement → Prop
  | .entry path _ => path.head? = some name
  | _ => False

/-- Whether a statement is a header whose first part is a name. -/
def Statement.Opens (name : Text) : Statement → Prop
  | .header path => path.head? = some name
  | .arrayHeader path => path.head? = some name
  | .entry _ _ => False

namespace Node

variable {name other : Text} {node : Node} {members members' : Members}

/-! ## Putting a member -/

theorem lookup_put_self (name : Text) (node : Node) (members : Members) :
    (put name node members).lookup name = some node := by
  induction members with
  | nil => rw [put, List.lookup_cons_self]
  | cons m members ih =>
    rw [put]
    split
    · exact List.lookup_cons_self
    · rename_i hne
      rw [List.lookup_cons, beq_false_of_ne (Ne.symm hne)]
      exact ih

theorem lookup_put_of_ne (h : other ≠ name) (node : Node) (members : Members) :
    (put name node members).lookup other = members.lookup other := by
  induction members with
  | nil => rw [put, List.lookup_cons, beq_false_of_ne h]
  | cons m members ih =>
    rw [put]
    split
    · rename_i he
      rw [List.lookup_cons, List.lookup_cons, he, beq_false_of_ne h]
    · rw [List.lookup_cons, List.lookup_cons, ih]

theorem put_of_lookup_eq_none (h : members.lookup name = none) (node : Node) :
    put name node members = members ++ [(name, node)] := by
  induction members with
  | nil => rfl
  | cons m members ih =>
    obtain ⟨n, old⟩ := m
    rw [List.lookup_cons] at h
    split at h
    · cases h
    · rename_i hne
      have hne : n ≠ name := fun he => by rw [he, beq_self_eq_true] at hne; cases hne
      rw [put, if_neg hne, ih h]
      rfl

theorem put_concat (h : members.lookup name = none) (old node : Node) :
    put name node (members ++ [(name, old)]) = members ++ [(name, node)] := by
  induction members with
  | nil => rw [List.nil_append, put, if_pos rfl]; rfl
  | cons m members ih =>
    obtain ⟨n, first⟩ := m
    rw [List.lookup_cons] at h
    split at h
    · cases h
    · rename_i hne
      have hne : n ≠ name := fun he => by rw [he, beq_self_eq_true] at hne; cases hne
      rw [List.cons_append, put, if_neg hne, ih h]
      rfl

/-! ## Nothing is taken away -/

/-- Whether a node may have come of another: if that was a table, it is one with the same
names and perhaps more. -/
def Widens : Node → Node → Prop
  | table _ members, node => ∃ origin members', node = table origin members' ∧
    ∀ name, (members.lookup name).isSome → (members'.lookup name).isSome
  | _, _ => True

/-- Whether members may have come of others. -/
def Grows (members members' : Members) : Prop :=
  ∀ name node, members.lookup name = some node →
    ∃ node', members'.lookup name = some node' ∧ Widens node node'

theorem Widens.refl (node : Node) : Widens node node := by
  cases node with
  | table origin members => exact ⟨origin, members, rfl, fun _ h => h⟩
  | _ => trivial

theorem Widens.trans {a b c : Node} (h : Widens a b) (h' : Widens b c) : Widens a c := by
  cases a with
  | table origin members =>
    obtain ⟨origin', members', rfl, hmembers⟩ := h
    obtain ⟨origin'', members'', rfl, hmembers'⟩ := h'
    exact ⟨origin'', members'', rfl, fun name hname => hmembers' name (hmembers name hname)⟩
  | _ => trivial

theorem Grows.refl (members : Members) : Grows members members := fun _ node h =>
  ⟨node, h, Widens.refl node⟩

theorem Grows.trans {a b c : Members} (h : Grows a b) (h' : Grows b c) : Grows a c := by
  intro name node hnode
  obtain ⟨node', hnode', hwidens⟩ := h name node hnode
  obtain ⟨node'', hnode'', hwidens'⟩ := h' name node' hnode'
  exact ⟨node'', hnode'', hwidens.trans hwidens'⟩

theorem Grows.isSome (h : Grows members members') (hname : (members.lookup name).isSome) :
    (members'.lookup name).isSome := by
  obtain ⟨node, hnode⟩ := Option.isSome_iff_exists.1 hname
  obtain ⟨node', hnode', -⟩ := h name node hnode
  rw [hnode']
  rfl

theorem grows_put (h : ∀ old, members.lookup name = some old → Widens old node) :
    Grows members (put name node members) := by
  intro other old hold
  by_cases he : other = name
  · subst he
    exact ⟨node, lookup_put_self other node members, h old hold⟩
  · exact ⟨old, by rw [lookup_put_of_ne he, hold], Widens.refl old⟩

theorem widens_table {origin origin' : Origin} (h : Grows members members') :
    Widens (table origin members) (table origin' members') :=
  ⟨origin', members', rfl, fun _ => h.isSome⟩

/-- A new table, or one that has grown, in the place of the old member. -/
theorem grows_put_of_lookup {old : Node} (hold : members.lookup name = some old)
    (h : Widens old node) :
    ((put name node members).lookup name).isSome ∧ Grows members (put name node members) := by
  refine ⟨by rw [lookup_put_self]; rfl, grows_put fun old' hold' => ?_⟩
  rw [hold] at hold'
  rwa [← Option.some.inj hold']

theorem grows_put_new (hnew : members.lookup name = none) :
    ((put name node members).lookup name).isSome ∧ Grows members (put name node members) := by
  refine ⟨by rw [lookup_put_self]; rfl, grows_put fun old hold => ?_⟩
  rw [hnew] at hold
  cases hold

/-- A key reaches its table through tables that only grow, and through new ones, which had
nothing to lose. -/
theorem grows_of_setKey {v : Toml} {path : List Text}
    (h : setKey v (name :: path) members = some members') :
    (members'.lookup name).isSome ∧ Grows members members' := by
  induction path generalizing name members members' with
  | nil =>
    rw [setKey] at h
    split at h
    · cases h
    · rename_i hnew
      obtain rfl := Option.some.inj h
      exact grows_put_new (Option.not_isSome_iff_eq_none.1 hnew)
  | cons part path ih =>
    rw [setKey] at h
    · split at h
      · rename_i hnew
        obtain ⟨inner, -, rfl⟩ := Option.map_eq_some_iff.1 h
        exact grows_put_new hnew
      · rename_i hold
        obtain ⟨inner, hinner, rfl⟩ := Option.map_eq_some_iff.1 h
        exact grows_put_of_lookup hold (widens_table (ih hinner).2)
      · rename_i hold
        split at h
        · cases h
        · obtain ⟨inner, hinner, rfl⟩ := Option.map_eq_some_iff.1 h
          exact grows_put_of_lookup hold (widens_table (ih hinner).2)
      · rename_i hold
        split at h
        · cases h
        · obtain ⟨inner, -, rfl⟩ := Option.map_eq_some_iff.1 h
          exact grows_put_of_lookup hold trivial
      · cases h
      · cases h
    · simp

theorem grows_of_change {f : Option Node → Option Node} {path : List Text}
    (hf : ∀ {old node}, f (some old) = some node → Widens old node)
    (h : change f (name :: path) members = some members') :
    (members'.lookup name).isSome ∧ Grows members members' := by
  induction path generalizing name members members' with
  | nil =>
    rw [change] at h
    obtain ⟨node, hnode, rfl⟩ := Option.map_eq_some_iff.1 h
    cases hold : members.lookup name with
    | none => exact grows_put_new hold
    | some old =>
      rw [hold] at hnode
      exact grows_put_of_lookup hold (hf hnode)
  | cons part path ih =>
    rw [change] at h
    · split at h
      · rename_i hnew
        obtain ⟨inner, -, rfl⟩ := Option.map_eq_some_iff.1 h
        exact grows_put_new hnew
      · rename_i hold
        obtain ⟨inner, hinner, rfl⟩ := Option.map_eq_some_iff.1 h
        exact grows_put_of_lookup hold (widens_table (ih hinner).2)
      · rename_i hold
        obtain ⟨inner, -, rfl⟩ := Option.map_eq_some_iff.1 h
        exact grows_put_of_lookup hold trivial
      · cases h
    · simp

theorem widens_of_openTable {old : Node} (h : openTable (some old) = some node) :
    Widens old node := by
  cases old with
  | table origin members =>
    cases origin <;> cases h
    exact widens_table (Grows.refl members)
  | _ => trivial

theorem widens_of_openNext {old : Node} (h : openNext (some old) = some node) :
    Widens old node := by
  cases old with
  | table => cases h
  | _ => trivial

theorem widens_of_setIn {v : Toml} {path : List Text} {old : Node}
    (h : setIn path v (some old) = some node) : Widens old node := by
  cases old with
  | table origin members =>
    obtain ⟨inner, hinner, rfl⟩ := Option.map_eq_some_iff.1 h
    cases path with
    | nil => cases hinner
    | cons name path => exact widens_table (grows_of_setKey hinner).2
  | _ => trivial

end Node

namespace Document

open Node

variable {d d' : Document} {s : Statement} {name : Text} {statements after : List Statement}
  {members : List (Text × Toml)}

theorem grows_of_add (h : d.add s = some d') :
    Grows d.members d'.members ∧ ∀ name, s.Opens name → (d'.members.lookup name).isSome := by
  cases s with
  | header path =>
    obtain ⟨inner, hinner, rfl⟩ := Option.map_eq_some_iff.1 h
    cases path with
    | nil => cases hinner
    | cons first path =>
      obtain ⟨hname, hgrows⟩ := grows_of_change widens_of_openTable hinner
      refine ⟨hgrows, fun _ hopens => ?_⟩
      rwa [Option.some.inj hopens] at hname
  | arrayHeader path =>
    obtain ⟨inner, hinner, rfl⟩ := Option.map_eq_some_iff.1 h
    cases path with
    | nil => cases hinner
    | cons first path =>
      obtain ⟨hname, hgrows⟩ := grows_of_change widens_of_openNext hinner
      refine ⟨hgrows, fun _ hopens => ?_⟩
      rwa [Option.some.inj hopens] at hname
  | entry key v =>
    refine ⟨?_, fun _ hopens => hopens.elim⟩
    rw [add] at h
    split at h
    · obtain ⟨inner, hinner, rfl⟩ := Option.map_eq_some_iff.1 h
      cases key with
      | nil => cases hinner
      | cons => exact (grows_of_setKey hinner).2
    · obtain ⟨inner, hinner, rfl⟩ := Option.map_eq_some_iff.1 h
      cases hpath : d.path with
      | nil =>
        rw [hpath] at hinner
        cases hinner
      | cons =>
        rw [hpath] at hinner
        exact (grows_of_change widens_of_setIn hinner).2

theorem grows_of_foldlM (h : statements.foldlM add d = some d') :
    Grows d.members d'.members := by
  induction statements generalizing d with
  | nil =>
    obtain rfl := Option.some.inj h
    exact Grows.refl _
  | cons s statements ih =>
    obtain ⟨between, hadd, hrest⟩ := Option.bind_eq_some_iff.1 h
    exact (grows_of_add hadd).1.trans (ih hrest)

theorem toMembers_eq_map (nodes : Members) :
    toMembers nodes = nodes.map fun m => (m.1, m.2.toToml) := by
  induction nodes with
  | nil => rw [toMembers]; rfl
  | cons m nodes ih =>
    rw [toMembers, ih]
    rfl

theorem mem_toMembers_of_lookup {nodes : Members} {node : Node}
    (h : nodes.lookup name = some node) : (name, node.toToml) ∈ toMembers nodes := by
  obtain ⟨before, behind, rfl, -⟩ := List.lookup_eq_some_iff.1 h
  rw [toMembers_eq_map, List.map_append, List.map_cons]
  exact List.mem_append_right _ List.mem_cons_self

/-- A header leaves a member under its name, whatever else a document says. -/
theorem exists_of_opens (hopens : s.Opens name)
    (h : ofStatements (statements ++ s :: after) = some members) : ∃ v, (name, v) ∈ members := by
  obtain ⟨last, hlast, rfl⟩ := Option.map_eq_some_iff.1 h
  rw [List.foldlM_append] at hlast
  obtain ⟨d, -, hd⟩ := Option.bind_eq_some_iff.1 hlast
  obtain ⟨d', hadd, hafter⟩ := Option.bind_eq_some_iff.1 hd
  have hname := (grows_of_foldlM hafter).isSome ((grows_of_add hadd).2 name hopens)
  obtain ⟨node, hnode⟩ := Option.isSome_iff_exists.1 hname
  exact ⟨_, mem_toMembers_of_lookup hnode⟩

/-- A key in front of every header leaves a member under its name. -/
theorem exists_of_sets (hsets : s.Sets name) (h : ofStatements (s :: after) = some members) :
    ∃ v, (name, v) ∈ members := by
  obtain ⟨last, hlast, rfl⟩ := Option.map_eq_some_iff.1 h
  obtain ⟨d, hadd, hafter⟩ := Option.bind_eq_some_iff.1 hlast
  cases s with
  | entry key v =>
    obtain ⟨inner, hinner, rfl⟩ := Option.map_eq_some_iff.1 hadd
    cases key with
    | nil => cases hsets
    | cons first key =>
      obtain rfl := Option.some.inj hsets
      have hname := (grows_of_foldlM hafter).isSome (grows_of_setKey hinner).1
      obtain ⟨node, hnode⟩ := Option.isSome_iff_exists.1 hname
      exact ⟨_, mem_toMembers_of_lookup hnode⟩
  | _ => exact hsets.elim

/-- Entries leave the table open that is. -/
theorem path_of_foldlM (hentries : ∀ s ∈ statements, ∃ key v, s = .entry key v)
    (h : statements.foldlM add d = some d') : d'.path = d.path := by
  induction statements generalizing d with
  | nil =>
    obtain rfl := Option.some.inj h
    rfl
  | cons s statements ih =>
    obtain ⟨⟨key, v, rfl⟩, hrest⟩ := List.forall_mem_cons.1 hentries
    obtain ⟨between, hadd, hafter⟩ := Option.bind_eq_some_iff.1 h
    rw [ih hrest hafter]
    rw [add] at hadd
    split at hadd <;> obtain ⟨inner, -, rfl⟩ := Option.map_eq_some_iff.1 hadd <;> rfl

theorem opened_of_add (h : d.add (.header [name]) = some d') :
    d'.path = [name] ∧ ∃ origin inner, d'.members.lookup name = some (.table origin inner) := by
  obtain ⟨inner, hinner, rfl⟩ := Option.map_eq_some_iff.1 h
  obtain ⟨node, hnode, rfl⟩ := Option.map_eq_some_iff.1 hinner
  refine ⟨rfl, ?_⟩
  rw [lookup_put_self]
  unfold openTable at hnode
  split at hnode
  · exact ⟨_, _, hnode.symm⟩
  · exact ⟨_, _, hnode.symm⟩
  · cases hnode

/-- A key that is set in the open table. -/
theorem set_of_add {table : Text} {origin : Origin} {inner : Members} (hpath : d.path = [table])
    (htable : d.members.lookup table = some (.table origin inner)) (hsets : s.Sets name)
    (h : d.add s = some d') :
    ∃ inner', d'.members.lookup table = some (.table origin inner') ∧
      (inner'.lookup name).isSome := by
  cases s with
  | entry key v =>
    cases key with
    | nil => cases hsets
    | cons first key =>
      obtain rfl := Option.some.inj hsets
      rw [add, hpath] at h
      obtain ⟨changed, hchanged, rfl⟩ := Option.map_eq_some_iff.1 h
      obtain ⟨node, hnode, rfl⟩ := Option.map_eq_some_iff.1 hchanged
      rw [htable] at hnode
      obtain ⟨inner', hinner', rfl⟩ := Option.map_eq_some_iff.1 hnode
      exact ⟨inner', lookup_put_self _ _ _, (grows_of_setKey hinner').1⟩
  | _ => exact hsets.elim

/-- A key under a header leaves a member under its name in that table. -/
theorem exists_of_sets_in {table : Text} {entries : List Statement}
    (hentries : ∀ s ∈ entries, ∃ key v, s = .entry key v) (hsets : s.Sets name)
    (h : ofStatements (statements ++ .header [table] :: (entries ++ s :: after)) = some members) :
    ∃ inner v, (table, .table inner) ∈ members ∧ (name, v) ∈ inner := by
  obtain ⟨last, hlast, rfl⟩ := Option.map_eq_some_iff.1 h
  rw [List.foldlM_append] at hlast
  obtain ⟨before, -, hbefore⟩ := Option.bind_eq_some_iff.1 hlast
  obtain ⟨opened, hopened, hrest⟩ := Option.bind_eq_some_iff.1 hbefore
  rw [List.foldlM_append] at hrest
  obtain ⟨filled, hfilled, hrest⟩ := Option.bind_eq_some_iff.1 hrest
  obtain ⟨set, hset, hafter⟩ := Option.bind_eq_some_iff.1 hrest
  -- The header leaves a table open, the entries keep it so, and then comes the key.
  obtain ⟨hpath, origin, inner, htable⟩ := opened_of_add hopened
  obtain ⟨_, htable, origin, inner, rfl, -⟩ := grows_of_foldlM hfilled _ _ htable
  obtain ⟨inner, htable, hname⟩ :=
    set_of_add ((path_of_foldlM hentries hfilled).trans hpath) htable hsets hset
  obtain ⟨_, htable, origin, inner', rfl, hgrown⟩ := grows_of_foldlM hafter _ _ htable
  obtain ⟨node, hnode⟩ := Option.isSome_iff_exists.1 (hgrown name hname)
  refine ⟨toMembers inner', node.toToml, ?_, mem_toMembers_of_lookup hnode⟩
  have hmem := mem_toMembers_of_lookup htable
  rwa [toToml] at hmem

/-! ## Tables with a header each -/

/-- A header of one name and an entry for each member. -/
def tableStatements (table : Text × List (Text × Toml)) : List Statement :=
  .header [table.1] :: table.2.map fun m => .entry [m.1] m.2

/-- The nodes of members that are not taken apart. -/
def values (members : List (Text × Toml)) : Members := members.map fun m => (m.1, .value m.2)

theorem lookup_map_eq_none {α : Type} {f : α → Text × Node} {entries : List α}
    (h : name ∉ entries.map fun a => (f a).1) : (entries.map f).lookup name = none := by
  rw [List.lookup_eq_none_iff]
  intro m hm
  obtain ⟨a, ha, rfl⟩ := List.mem_map.1 hm
  exact bne_iff_ne.2 fun he => h (List.mem_map.2 ⟨a, ha, he.symm⟩)

theorem not_mem_of_nodup {α : Type} {before behind : List (Text × α)} {m : Text × α}
    (h : ((before ++ m :: behind).map Prod.fst).Nodup) : m.1 ∉ before.map Prod.fst := by
  rw [List.map_append, List.nodup_append] at h
  exact fun hmem => h.2.2 m.1 hmem m.1 List.mem_cons_self rfl

theorem toMembers_values (members : List (Text × Toml)) : toMembers (values members) = members := by
  rw [toMembers_eq_map, values, List.map_map]
  refine (List.map_congr_left fun m _ => ?_).trans (List.map_id _)
  rw [Function.comp_apply, toToml]
  rfl

/-- The open table is the last one, and an entry goes to its end. -/
theorem foldlM_entries {before : Members} (hbefore : before.lookup name = none)
    (inner entries : List (Text × Toml)) (h : ((inner ++ entries).map Prod.fst).Nodup) :
    (entries.map fun m => Statement.entry [m.1] m.2).foldlM add
        ⟨before ++ [(name, .table .header (values inner))], [name]⟩ =
      some ⟨before ++ [(name, .table .header (values (inner ++ entries)))], [name]⟩ := by
  induction entries generalizing inner with
  | nil =>
    rw [List.append_nil]
    rfl
  | cons m entries ih =>
    obtain ⟨key, v⟩ := m
    have hset : setKey v [key] (values inner) = some (values (inner ++ [(key, v)])) := by
      have hnew : (values inner).lookup key = none := lookup_map_eq_none (not_mem_of_nodup h)
      rw [setKey, hnew, if_neg (by simp), put_of_lookup_eq_none hnew, values, values,
        List.map_append]
      rfl
    have hlookup : (before ++ [(name, Node.table .header (values inner))]).lookup name =
        some (.table .header (values inner)) := by
      rw [List.lookup_append, hbefore, List.lookup_cons_self]
      rfl
    have hadd : add ⟨before ++ [(name, .table .header (values inner))], [name]⟩ (.entry [key] v) =
        some ⟨before ++ [(name, .table .header (values (inner ++ [(key, v)])))], [name]⟩ := by
      show (change (setIn [key] v) [name] _).map _ = _
      rw [change, hlookup, setIn, hset, Option.map_some, Option.map_some, put_concat hbefore]
      rfl
    rw [List.append_cons] at h
    have hrest := ih (inner ++ [(key, v)]) h
    rw [← List.append_cons] at hrest
    rw [List.map_cons, List.foldlM_cons, hadd]
    exact hrest

/-- The nodes of tables with a header each. -/
def headed (tables : List (Text × List (Text × Toml))) : Members :=
  tables.map fun table => (table.1, .table .header (values table.2))

/-- Every table comes out with the members that it was given. -/
theorem foldlM_tables (before tables : List (Text × List (Text × Toml))) (path : List Text)
    (hnames : ((before ++ tables).map Prod.fst).Nodup)
    (hkeys : ∀ table ∈ tables, (table.2.map Prod.fst).Nodup) :
    ∃ path', (tables.flatMap tableStatements).foldlM add ⟨headed before, path⟩ =
      some ⟨headed (before ++ tables), path'⟩ := by
  induction tables generalizing before path with
  | nil =>
    rw [List.append_nil]
    exact ⟨path, rfl⟩
  | cons table tables ih =>
    obtain ⟨name, entries⟩ := table
    obtain ⟨hentries, htables⟩ := List.forall_mem_cons.1 hkeys
    have hnew : (headed before).lookup name = none :=
      lookup_map_eq_none (not_mem_of_nodup hnames)
    have hopen : add ⟨headed before, path⟩ (.header [name]) =
        some ⟨headed before ++ [(name, .table .header (values []))], [name]⟩ := by
      rw [add, change, hnew, openTable, Option.map_some, put_of_lookup_eq_none hnew]
      rfl
    rw [List.append_cons] at hnames ⊢
    rw [List.flatMap_cons, List.foldlM_append, tableStatements, List.foldlM_cons, hopen]
    obtain ⟨path', hrest⟩ := ih (before ++ [(name, entries)]) [name] hnames htables
    have hclosed : headed (before ++ [(name, entries)]) =
        headed before ++ [(name, .table .header (values entries))] := List.map_append
    refine ⟨path', ?_⟩
    rw [← hrest, hclosed]
    show (List.foldlM add _ _ >>= _) = _
    rw [foldlM_entries hnew [] entries hentries]
    rfl

theorem ofStatements_tables {tables : List (Text × List (Text × Toml))}
    (hnames : (tables.map Prod.fst).Nodup)
    (hkeys : ∀ table ∈ tables, (table.2.map Prod.fst).Nodup) :
    ofStatements (tables.flatMap tableStatements) =
      some (tables.map fun table => (table.1, .table table.2)) := by
  obtain ⟨path, h⟩ := foldlM_tables [] tables [] hnames hkeys
  rw [headed, List.map_nil, List.nil_append] at h
  rw [ofStatements, h, Option.map_some, toMembers_eq_map, headed, List.map_map]
  congr 1
  refine List.map_congr_left fun table _ => ?_
  rw [Function.comp_apply, toToml, toMembers_values]

end Document

end Toml
end RoverMission
