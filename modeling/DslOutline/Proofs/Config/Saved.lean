import DslOutline.Config.Basic
import DslOutline.Proofs.Files.Saved
import DslOutline.Proofs.Toml.Fields

/-!
# Configurations that are saved and loaded again

Saving writes the paths of a configuration as they are, and loading expands them. What was loaded,
saved and loaded again therefore has its paths expanded twice (`load_save`), and it is what was
saved if no path changes when it is expanded a second time. A path without a dollar sign to which
the home folder adds nothing does not change, nor does one with a variable that is not set
(`expand_of_settled`); so what was loaded from a file without dollar signs in its paths is safe
(`settled_of_load`). A dollar sign that was written twice does not survive: loading makes it one,
and loading again takes it for the start of a variable (`load_save_ne`).
-/

namespace DslOutline

namespace Config

/-! ### The file format -/

theorem strings?_array (ss : List String) : strings? (.array (ss.map .string)) = some ss := by
  have hitems : (ss.map Toml.Value.string).mapM Toml.Value.string? = some ss := by
    induction ss with
    | nil => rfl
    | cons s ss ih => simp [Toml.Value.string?, ih]
  exact hitems

theorem size?_integer {n : Nat} (h : n < 0x10000000000000000) : size? (.integer n) = some n := by
  simp only [size?]
  rw [if_pos ⟨by omega, by omega⟩]
  rfl

/-- The lines of a configuration file. -/
def writtenFields (c : Config) (hsize : c.maxFileBytes < 0x10000000000000000) :
    List Toml.WrittenField :=
  (c.projectPath.toList.map fun path =>
    { name := "project_path", text := Toml.renderString path, value := .string path,
      writes := Toml.writes_renderString path }) ++
  [{ name := "schema_paths", text := Toml.renderStrings c.schemaPaths,
      value := .array (c.schemaPaths.map .string),
      writes := Toml.writes_renderStrings c.schemaPaths },
    { name := "include_builtin_schemas", text := Toml.renderBool c.includeBuiltinSchemas,
      value := .boolean c.includeBuiltinSchemas,
      writes := Toml.writes_renderBool c.includeBuiltinSchemas },
    { name := "file_extensions", text := Toml.renderStrings c.fileExtensions,
      value := .array (c.fileExtensions.map .string),
      writes := Toml.writes_renderStrings c.fileExtensions },
    { name := "max_file_bytes", text := toString c.maxFileBytes, value := .integer c.maxFileBytes,
      writes := Toml.writes_toString (Nat.lt_trans hsize (by decide)) },
    { name := "heuristic_fallback", text := Toml.renderBool c.heuristicFallback,
      value := .boolean c.heuristicFallback,
      writes := Toml.writes_renderBool c.heuristicFallback }]

/-- A configuration is written as the lines of its fields. -/
theorem render_eq_writtenFields (c : Config) (hsize : c.maxFileBytes < 0x10000000000000000) :
    c.render.toList = (c.writtenFields hsize).flatMap Toml.WrittenField.line := by
  cases hpath : c.projectPath <;> simp [render, writtenFields, hpath, Toml.WrittenField.line]

/-- A configuration file that was written is read back. -/
theorem parse?_render {c : Config} (hsize : c.maxFileBytes < 0x10000000000000000) :
    parse? c.render = some c := by
  have hnodup : ((c.writtenFields hsize).map Toml.WrittenField.name).Nodup := by
    cases hpath : c.projectPath <;> simp [writtenFields, hpath]
  unfold parse?
  rw [Toml.parse?_lines _ hnodup (c.render_eq_writtenFields hsize)]
  obtain ⟨path, schemas, builtin, extensions, size, fallback⟩ := c
  cases path <;>
    simp [writtenFields, ofFields?, field, Toml.Fields.get?, strings?_array, size?_integer hsize,
      Toml.Value.string?, Toml.Value.boolean?]

/-! ### Loading -/

/-- A size that was read fits into 64 bits. -/
theorem maxFileBytes_lt_of_ofFields? {fields : Toml.Fields} {c : Config}
    (h : ofFields? fields = some c) : c.maxFileBytes < 0x10000000000000000 := by
  simp only [ofFields?, Option.bind_eq_bind, Option.bind_eq_some_iff] at h
  obtain ⟨path, -, schemas, -, builtin, -, extensions, -, size, hsize, fallback, -, h⟩ := h
  cases h
  change size < 0x10000000000000000
  unfold field at hsize
  split at hsize
  · cases hsize
    decide
  · rename_i v hv
    unfold size? at hsize
    split at hsize
    · split_ifs at hsize with hbounds
      cases hsize
      omega
    · cases hsize

/-- A configuration that was loaded comes from a file that can be read, with the paths in it
expanded. -/
theorem load_eq_ok {env : Environment} {fs : FileSystem} {path : String} {c : Config}
    (h : load env fs path = .ok (some c)) :
    ∃ file written, fs.readText path = .ok file ∧ parse? file = some written ∧
      c = written.expandPaths env := by
  unfold load at h
  split at h
  · cases h
  · split at h
    · cases h
    · rename_i file hfile
      split at h
      · rename_i written hwritten
        cases h
        exact ⟨file, written, hfile, hwritten, rfl⟩
      · cases h

/-- Sizes that were loaded fit into 64 bits, so they can be written again. -/
theorem maxFileBytes_lt_of_load {env : Environment} {fs : FileSystem} {path : String} {c : Config}
    (h : load env fs path = .ok (some c)) : c.maxFileBytes < 0x10000000000000000 := by
  obtain ⟨file, written, -, hparse, rfl⟩ := load_eq_ok h
  obtain ⟨fields, -, hfields⟩ := Option.bind_eq_some_iff.mp hparse
  exact (maxFileBytes_lt_of_ofFields? hfields : written.maxFileBytes < _)

/-- Loading a configuration that was saved expands its paths. -/
theorem load_of_save {c : Config} (hsize : c.maxFileBytes < 0x10000000000000000)
    {fs fs' : FileSystem} {path : String} (hsave : c.save fs path = .ok fs') (env : Environment) :
    load env fs' path = .ok (some (c.expandPaths env)) := by
  have hnode : fs'.node? path = some (.file c.render.toUTF8 0) := by
    rw [FileSystem.node?, FileSystem.node_of_save hsave]
    rfl
  simp [load, hnode, FileSystem.readText_of_save hsave, parse?_render hsize]

/-- The paths in a configuration. -/
def paths (c : Config) : List String :=
  c.projectPath.toList ++ c.schemaPaths

/-- Expanding a configuration expands its paths, one by one. -/
theorem paths_expandPaths (env : Environment) (c : Config) :
    (c.expandPaths env).paths = c.paths.map env.expand := by
  cases hpath : c.projectPath <;> simp [paths, expandPaths, hpath]

/-- If no path changes, expanding a configuration changes nothing. -/
theorem expandPaths_eq_self {env : Environment} {c : Config}
    (h : ∀ p ∈ c.paths, env.expand p = p) : c.expandPaths env = c := by
  obtain ⟨path, schemas, builtin, extensions, size, fallback⟩ := c
  have hschemas : schemas.map env.expand = schemas := by
    have hid : schemas.map env.expand = schemas.map id :=
      List.map_congr_left fun p hp => h p (List.mem_append_right _ hp)
    rw [hid, List.map_id]
  cases path with
  | none => simp [expandPaths, hschemas]
  | some path => simp [expandPaths, hschemas, h path (by simp [paths])]

/-- Expanding the paths of a configuration makes a difference only in its paths. -/
theorem same_expandPaths (env : Environment) (c : Config) :
    c.same (c.expandPaths env) = c.paths.all fun p => Path.same p (env.expand p) := by
  have hzip : ∀ ps : List String,
      ((ps.zip (ps.map env.expand)).all fun pair => Path.same pair.1 pair.2) =
        ps.all fun p => Path.same p (env.expand p) := by
    intro ps
    induction ps with
    | nil => rfl
    | cons p ps ih => simp [ih]
  cases hpath : c.projectPath <;> simp [same, expandPaths, paths, hpath, hzip]

end Config

/-! ### Expanding twice -/

namespace Environment

/-- A path without a dollar sign has no variables. -/
theorem expandVariables_of_not_mem (env : Environment) (fuel : Nat) {cs : List Char}
    (h : '$' ∉ cs) : env.expandVariables fuel cs = some cs := by
  induction fuel generalizing cs with
  | zero => rfl
  | succ fuel ih =>
    cases cs with
    | nil => rfl
    | cons c cs =>
      obtain ⟨hc, hcs⟩ : c ≠ '$' ∧ '$' ∉ cs := by
        simpa [eq_comm] using h
      rw [expandVariables, ih hcs]
      · rfl
      all_goals
        intros
        contradiction

/-- A path that is not expanded further: nothing in it stands for something else, or a variable in
it is not set. -/
def Settled (env : Environment) (path : String) : Prop :=
  env.expandVariables (path.toList.length + 1) path.toList = none ∨
    ('$' ∉ path.toList ∧ env.expandHome path.toList = path.toList)

instance (env : Environment) (path : String) : Decidable (env.Settled path) :=
  inferInstanceAs (Decidable (_ ∨ _))

/-- A settled path is not expanded any further. -/
theorem expand_of_settled {env : Environment} {path : String} (h : env.Settled path) :
    env.expand path = path := by
  unfold expand
  rcases h with hunset | ⟨hplain, hhome⟩
  · simp [hunset]
  · simp [env.expandVariables_of_not_mem _ hplain, hhome]

/-- Only a path with `~` in front has the home folder put in. -/
theorem expandHome_of_head? (env : Environment) {cs : List Char} (h : cs.head? ≠ some '~') :
    env.expandHome cs = cs := by
  unfold expandHome
  split
  · simp at h
  · rfl

/-- The home folder stands in place of a `~`, and a slash or nothing follows it. -/
theorem expandHome_cases (env : Environment) (cs : List Char) :
    env.expandHome cs = cs ∨ ∃ home rest, env.home? = some home ∧ cs = '~' :: rest ∧
      rest.head? ≠ some '~' ∧ env.expandHome cs = home.toList ++ rest := by
  unfold expandHome
  split
  · rename_i rest
    cases hhome : env.home? with
    | none => exact Or.inl rfl
    | some home =>
      dsimp only
      split_ifs with hrest
      · right
        refine ⟨home, rest, rfl, rfl, ?_, rfl⟩
        intro htilde
        cases rest with
        | nil => cases htilde
        | cons c cs => simp_all
      · exact Or.inl rfl
  · exact Or.inl rfl

/-- A home folder, if there is one, in which nothing stands for something else. -/
def PlainHome (env : Environment) : Prop :=
  ∀ home ∈ env.home?, '$' ∉ home.toList ∧ home.toList.head? ≠ some '~'

/-- Without dollar signs in it and in the home folder, a path is settled once it is expanded. -/
theorem settled_expand {env : Environment} (hhome : env.PlainHome) {path : String}
    (hpath : '$' ∉ path.toList) : env.Settled (env.expand path) := by
  have hexpand : (env.expand path).toList = env.expandHome path.toList := by
    unfold expand
    simp only [env.expandVariables_of_not_mem _ hpath]
    split_ifs with htilde
    · simp
    · rw [env.expandHome_of_head? (by simpa using htilde), String.toList_ofList]
  unfold Settled
  rw [hexpand]
  right
  obtain hsame | ⟨home, rest, hset, hcs, hrest, hfull⟩ := env.expandHome_cases path.toList
  · rw [hsame]
    exact ⟨hpath, hsame⟩
  · obtain ⟨hdollar, htilde⟩ := hhome home hset
    rw [hfull]
    constructor
    · rw [hcs] at hpath
      simp_all
    · apply env.expandHome_of_head?
      cases hlist : home.toList with
      | nil => simpa using hrest
      | cons c cs => simpa [hlist] using htilde

end Environment

namespace Config

/-- What was loaded, saved and loaded again is the same if all paths in it are settled. -/
theorem load_of_save_of_settled {env : Environment} {fs fs₁ fs₂ : FileSystem} {path path' : String}
    {c : Config} (hload : load env fs path = .ok (some c)) (hsave : c.save fs₁ path' = .ok fs₂)
    (h : ∀ p ∈ c.paths, env.Settled p) : load env fs₂ path' = .ok (some c) := by
  rw [load_of_save (maxFileBytes_lt_of_load hload) hsave env,
    expandPaths_eq_self fun p hp => Environment.expand_of_settled (h p hp)]

/-- A file without dollar signs in its paths has settled paths once it is loaded. -/
theorem settled_of_load {env : Environment} (hhome : env.PlainHome) {fs : FileSystem}
    {path file : String} {written c : Config} (hload : load env fs path = .ok (some c))
    (hfile : fs.readText path = .ok file) (hwritten : parse? file = some written)
    (hpaths : ∀ p ∈ written.paths, '$' ∉ p.toList) : ∀ p ∈ c.paths, env.Settled p := by
  obtain ⟨text, base, htext, hbase, rfl⟩ := load_eq_ok hload
  cases hfile.symm.trans htext
  cases hwritten.symm.trans hbase
  rw [paths_expandPaths]
  intro p hp
  obtain ⟨q, hq, rfl⟩ := List.mem_map.mp hp
  exact Environment.settled_expand hhome (hpaths q hq)

/-- **What was saved is loaded with its paths expanded once more.** That is the same configuration
exactly if each path stays the same, and nothing changes at all if each path is settled. So it is if
the file that was loaded first has no dollar sign in a path, and the home folder has none. -/
theorem load_save {env : Environment} {fs fs₁ fs₂ : FileSystem} {path path' : String} {c : Config}
    (hload : load env fs path = .ok (some c)) (hsave : c.save fs₁ path' = .ok fs₂) :
    load env fs₂ path' = .ok (some (c.expandPaths env)) ∧
    ((∃ c', load env fs₂ path' = .ok (some c') ∧ c.same c' = true) ↔
      ∀ p ∈ c.paths, Path.same p (env.expand p) = true) ∧
    ((∀ p ∈ c.paths, env.Settled p) → load env fs₂ path' = .ok (some c)) ∧
    (env.PlainHome → ∀ file written, fs.readText path = .ok file → parse? file = some written →
      (∀ p ∈ written.paths, '$' ∉ p.toList) → load env fs₂ path' = .ok (some c)) := by
  have hagain := load_of_save (maxFileBytes_lt_of_load hload) hsave env
  have hsettled := load_of_save_of_settled hload hsave
  refine ⟨hagain, ?_, hsettled, ?_⟩
  · rw [hagain, ← List.all_eq_true, ← same_expandPaths]
    constructor
    · rintro ⟨c', hc', hsame⟩
      cases hc'
      exact hsame
    · exact fun hsame => ⟨_, rfl, hsame⟩
  · intro hhome file written hfile hwritten hpaths
    exact hsettled (settled_of_load hhome hload hfile hwritten hpaths)

/-- A home folder, a variable that is set and one that is not, saved into a folder that is made. -/
theorem load_save_settled :
    let env : Environment := [("HOME", "/home/tester"), ("SCHEMAS", "/srv/schemas")]
    let text := "project_path = \"~/app\"\n" ++
      "schema_paths = [\"$\x7bSCHEMAS\x7d/a.toml\", \"$\x7bOTHER\x7d/b\"]\n"
    let fs : FileSystem := ⟨.folder [("config.toml", .file text.toUTF8 0)], []⟩
    let c : Config :=
      { projectPath := some "/home/tester/app",
        schemaPaths := ["/srv/schemas/a.toml", "$\x7bOTHER\x7d/b"] }
    load env fs "config.toml" = .ok (some c) ∧
      ∃ fs', c.save fs "new/config.toml" = .ok fs' ∧
        load env fs' "new/config.toml" = .ok (some c) := by
  intro env text fs c
  have hload : load env fs "config.toml" = .ok (some c) := by decide +kernel
  have hsettled : ∀ p ∈ c.paths, env.Settled p := by decide +kernel
  have hok : (c.save fs "new/config.toml").isOk = true := by decide +kernel
  cases hsave : c.save fs "new/config.toml" with
  | error e =>
    rw [hsave] at hok
    cases hok
  | ok fs' => exact ⟨hload, fs', rfl, (load_save hload hsave).2.2.1 hsettled⟩

/-- A dollar sign written twice stands for one, and that is saved. Loaded again, it starts a
variable. -/
theorem load_save_ne :
    let env : Environment := [("HOME", "/home/tester")]
    let text := "project_path = \"$$\x7bHOME\x7d/x\"\n"
    let fs : FileSystem := ⟨.folder [("config.toml", .file text.toUTF8 0)], []⟩
    let c : Config := { projectPath := some "$\x7bHOME\x7d/x" }
    let c' : Config := { projectPath := some "/home/tester/x" }
    load env fs "config.toml" = .ok (some c) ∧
      (∃ fs', c.save fs "saved.toml" = .ok fs' ∧ load env fs' "saved.toml" = .ok (some c')) ∧
      c.same c' = false := by
  intro env text fs c c'
  have hload : load env fs "config.toml" = .ok (some c) := by decide +kernel
  have hexpand : c.expandPaths env = c' := by decide +kernel
  have hok : (c.save fs "saved.toml").isOk = true := by decide +kernel
  refine ⟨hload, ?_, by decide +kernel⟩
  cases hsave : c.save fs "saved.toml" with
  | error e =>
    rw [hsave] at hok
    cases hok
  | ok fs' =>
    refine ⟨fs', rfl, ?_⟩
    rw [load_of_save (maxFileBytes_lt_of_load hload) hsave env, hexpand]

end Config

end DslOutline
