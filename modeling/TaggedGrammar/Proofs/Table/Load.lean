import TaggedGrammar.Proofs.Runs
import TaggedGrammar.Proofs.Table.Hosts
import TaggedGrammar.Table.Load

/-!
# What loaded tables have in common

Loading tables changes no file. The hosts of a table that was loaded have different names, since the names are
the keys of a mapping.
-/

namespace TaggedGrammar.Table

open Run Outcome Value

section Disk

/-- A table file is only read. -/
lemma onlyReads_readText (p : Files.Path) : OnlyReads (readText p) := by
  refine .bind (onlyReads_inspect _) fun isFile => ?_
  cases isFile with
  | true => exact .bind (onlyReads_inspect _) fun _ => onlyReads_ofOutcome _
  | false => exact onlyReads_fail _

/-- Its value is made in memory. -/
lemma onlyReads_readValue (origin : Text) (text : List Char) : OnlyReads (readValue origin text) := by
  refine .bind (onlyReads_note _) fun _ => .bind (onlyReads_reading _) fun read => ?_
  cases read with
  | ok v => exact onlyReads_pure v
  | error t => exact onlyReads_fail _

/-- Its mapping is only read. -/
lemma onlyReads_readMapping (p : Files.Path) : OnlyReads (readMapping p) :=
  .bind (onlyReads_readText p) fun _ => .bind (onlyReads_readValue _ _) fun _ => onlyReads_ofOutcome _

/-- What the reader has kept is no part of the disk. -/
lemma onlyReads_settle (origin : Text) : OnlyReads (settle origin) := by
  refine .bind (onlyReads_reading _) fun settled => ?_
  cases settled with
  | ok _ => exact onlyReads_pure ()
  | error t => exact .bind (onlyReads_note _) fun _ => onlyReads_fail _

/-- Languages are only read. -/
lemma onlyReads_loadLanguages (path : Option Files.Path) : OnlyReads (loadLanguages path) := by
  cases path with
  | none => exact .bind (onlyReads_settle _) fun _ => onlyReads_ofOutcome _
  | some p => exact .bind (onlyReads_readMapping p) fun _ => onlyReads_ofOutcome _

/-- Hosts are only read. -/
lemma onlyReads_loadHosts (path : Option Files.Path) : OnlyReads (loadHosts path) := by
  cases path with
  | none => exact .bind (onlyReads_settle _) fun _ => onlyReads_ofOutcome _
  | some p => exact .bind (onlyReads_readMapping p) fun _ => onlyReads_ofOutcome _

/-- Loading tables leaves the disk as it is. -/
lemma onlyReads_load (sources : Sources) : OnlyReads (load sources) :=
  .bind (onlyReads_loadLanguages _) fun _ => .bind (onlyReads_loadHosts _) fun _ => onlyReads_pure _

end Disk

section HostNames

/-- A host has the name of the record it is made of. -/
lemma name_of_ofValue? {record key : String} {name : Text} {others : List (String × Value)} {host : Host}
    (h : Host.ofValue? (.record record ((key, .str name) :: others)) = some host) : host.name = name := by
  unfold Host.ofValue? at h
  split at h
  · rename_i heq
    cases heq
    simp only [Option.bind_eq_bind, Option.bind_eq_some_iff, Option.pure_def, Option.some.injEq] at h
    obtain ⟨_, -, _, -, _, -, rfl⟩ := h
    rfl
  · cases h

/-- The name of a host is its key. -/
lemma eq_str_of_buildHost {name body : Value} {host : Host} (h : (buildHost name body).result = .ok host) :
    name = .str host.name := by
  obtain ⟨step, entries, -, -, -, v, hv, hhost⟩ := buildHost_eq_ok.1 h
  obtain ⟨_, values, hentries, -, hfields, rfl⟩ := Hint.build_record_eq_ok.1 hv
  cases hentries
  obtain ⟨w, x, others, hw, hx, -, rfl⟩ := Hint.coerceFields_required.1 hfields
  obtain ⟨s, rfl, rfl⟩ := Hint.coerce_str_eq_ok.1 hx
  rw [name_of_ofValue? hhost]
  simpa [field?, lookup] using hw

/-- The names of hosts are the keys of their mapping. -/
lemma keys_of_buildHosts {entries : List (Value × Value)} {hosts : List Host}
    (h : (buildHosts entries).result = .ok hosts) :
    entries.map Prod.fst = hosts.map fun host => .str host.name := by
  induction entries generalizing hosts with
  | nil =>
    cases h
    rfl
  | cons e rest ih =>
    obtain ⟨name, body⟩ := e
    simp only [buildHosts, result_bind_eq_ok, result_pure, Except.ok.injEq] at h
    obtain ⟨host, hhost, others, hothers, rfl⟩ := h
    simp only [List.map_cons, ih hothers, eq_str_of_buildHost hhost]

/-- Hosts that come from a mapping with different keys have different names. -/
lemma nodup_of_buildHosts {entries : List (Value × Value)} {hosts : List Host}
    (h : (buildHosts entries).result = .ok hosts) (hkeys : DifferentKeys entries) :
    (hosts.map Host.name).Nodup := by
  unfold DifferentKeys at hkeys
  rw [keys_of_buildHosts h, List.pairwise_map] at hkeys
  rw [List.Nodup, List.pairwise_map]
  refine hkeys.imp fun hne heq => hne ?_
  rw [heq]
  simp

/-- Hosts have different names if the mapping that holds them has different keys. -/
lemma nodup_of_parseHosts {raw : List (Value × Value)} {hosts : List Host}
    (h : (parseHosts raw).result = .ok hosts)
    (hkeys : ∀ {v entries}, field? "hosts" raw = some v → Hint.HasEntries v entries → DifferentKeys entries) :
    (hosts.map Host.name).Nodup := by
  obtain ⟨-, ⟨v, entries, hfound, hentries, hbuilt⟩, -⟩ := parseHosts_eq_ok.1 h
  exact nodup_of_buildHosts hbuilt (hkeys hfound hentries)

/-- What is read from a file is tidy. -/
lemma tidy_of_readMapping {p : Files.Path} {s s' : Session} {raw : List (Value × Value)}
    (h : Ends (readMapping p) s (.ok raw) s') : ∀ e ∈ raw, Tidy e.2 := by
  obtain ⟨text, s₁, -, h₁⟩ := ends_bind_ok.1 h
  obtain ⟨v, s₂, hv, h₂⟩ := ends_bind_ok.1 h₁
  have tidy : Tidy v := by
    obtain ⟨_, s₃, -, h₃⟩ := ends_bind_ok.1 hv
    obtain ⟨read, s₄, hread, h₄⟩ := ends_bind_ok.1 h₃
    cases read with
    | ok w =>
      obtain ⟨heq, -⟩ := ends_pure.1 h₄
      cases heq
      exact Yaml.tidy_of_read (Except.ok.inj hread.1)
    | error t => cases (ends_fail.1 h₄).1
  have hraw := (ends_ofOutcome.1 h₂).1.symm
  unfold mappingOf at hraw
  split at hraw
  · cases hraw
    cases tidy with
    | scalar hs => cases hs
    | map _ _ hvalues => exact hvalues
  · cases hraw
    cases tidy with
    | scalar hs => cases hs
    | ordered _ _ hvalues => exact hvalues
  · split at hraw
    · cases hraw
      simp
    · cases hraw

/-- The bundled hosts have different names. -/
lemma nodup_bundledHosts {hosts : List Host} (h : bundledHosts.result = .ok hosts) :
    (hosts.map Host.name).Nodup := by
  simp only [bundledHosts, result_bind_eq_ok, result_note] at h
  obtain ⟨_, -, h⟩ := h
  refine nodup_of_parseHosts h fun {v entries} hv hentries => ?_
  rw [rawHosts, field?, lookup, if_pos (same_str.2 rfl)] at hv
  cases hv
  cases hentries
  have different : ¬(Value.str Bundled.fsharp.name).same (.str Bundled.javascript.name) := by
    rw [same_str, Value.str.injEq]
    decide
  exact .cons (List.forall_mem_singleton.2 different) (List.pairwise_singleton _ _)

/-- Hosts that were loaded have different names, since they are keys of one mapping. -/
lemma nodup_of_loadHosts {path : Option Files.Path} {s s' : Session} {hosts : List Host}
    (h : Ends (loadHosts path) s (.ok hosts) s') : (hosts.map Host.name).Nodup := by
  cases path with
  | none =>
    obtain ⟨_, s₁, -, h₁⟩ := ends_bind_ok.1 h
    exact nodup_bundledHosts (ends_ofOutcome.1 h₁).1.symm
  | some p =>
    obtain ⟨raw, s₁, hraw, h₁⟩ := ends_bind_ok.1 h
    refine nodup_of_parseHosts (ends_ofOutcome.1 h₁).1.symm fun {v entries} hv hentries => ?_
    have tidy : Tidy v := of_lookup (tidy_of_readMapping hraw) hv
    cases hentries with
    | map =>
      cases tidy with
      | scalar hs => cases hs
      | map hkeys _ _ => exact hkeys
    | ordered =>
      cases tidy with
      | scalar hs => cases hs
      | ordered hkeys _ _ => exact hkeys

/-- The hosts of loaded tables have different names. -/
lemma nodup_of_load {sources : Sources} {s s' : Session} {tables : Tables}
    (h : Ends (load sources) s (.ok tables) s') : (tables.hosts.map Host.name).Nodup := by
  obtain ⟨languages, s₁, -, h₁⟩ := ends_bind_ok.1 h
  obtain ⟨hosts, s₂, hhosts, h₂⟩ := ends_bind_ok.1 h₁
  cases (ends_pure.1 h₂).1
  exact nodup_of_loadHosts hhosts

end HostNames

end TaggedGrammar.Table
