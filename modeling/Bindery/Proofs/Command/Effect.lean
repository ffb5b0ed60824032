import Bindery.Command.Run
import Bindery.Proofs.Files.Write

/-!
# What a run changes

A run that fails leaves all files as they are. A run that makes bindings writes them to the output of its
configuration and leaves all other files as they are. In either case there may be some more directories on
the way to the output.

## Main definitions

- `World.Loads` — the configuration and the schema of a run

## Main results

- `Config.isRooted_output` — the output of a configuration is a file with a clean path from the root on
- `Config.writeBindings_cases` — what writing bindings changes
- `World.run_touches_output_only` — what a run changes
-/

namespace Bindery

/-! ### The output of a configuration -/

theorem Output.isRooted_check {o o' : Output} {s : Store} (h : o.check s = .ok o') :
    ∃ place name, Path.IsRooted o'.filename (place ++ [name]) := by
  have hsource : ".go".toList.isSuffixOf o.filename.toList = true := by
    by_contra hnot
    simp only [check, Bool.not_eq_true] at h hnot
    simp only [hnot] at h
    split at h
    · cases h
    · split at h <;> cases h
  have hfile : o'.filename = s.absolute o.filename := by
    simp only [check, hsource] at h
    split at h
    · cases h
    · split at h
      · cases h
      · cases h
        rfl
  obtain ⟨front, last, hnames, hlast⟩ :=
    Path.exists_plain_of_suffix (List.isSuffixOf_iff_suffix.mp hsource)
  obtain ⟨place, hplace⟩ := s.isRooted_absolute hnames hlast
  rw [hfile]
  exact ⟨place, last, hplace⟩

theorem Config.output_of_check {c c' : Config} {s : Store} (h : c.check s = .ok c') :
    c.output.check s = .ok c'.output := by
  have hsources : ¬ (c.schema.isSome && c.endpoint.isSome) = true := by
    intro hboth
    simp only [check, hboth] at h
    cases h
  have hsource : ¬ (c.schema.isNone && c.endpoint.isNone) = true := by
    intro hnone
    simp only [check, hsources, hnone] at h
    cases h
  have hurl : ¬ (c.endpoint.any (·.url == "")) = true := by
    intro hempty
    simp only [check, hsources, hsource, hempty] at h
    cases h
  simp only [check, hsources, hsource, hurl] at h
  cases houtput : c.output.check s with
  | error e =>
    rw [houtput] at h
    cases h
  | ok output =>
    rw [houtput] at h
    cases hschema : c.schema with
    | none =>
      simp only [hschema] at h
      cases h
      rfl
    | some patterns =>
      simp only [hschema] at h
      cases hfiles : s.schemaFiles patterns with
      | error e =>
        simp only [hfiles] at h
        cases h
      | ok files =>
        simp only [hfiles] at h
        cases h
        rfl

/-- The output of a configuration that was loaded is a file with a clean path from the root on. -/
theorem Config.isRooted_output {s : Store} {environment : Environment} {file : String} {c : Config}
    (h : Config.load s environment file = .ok c) :
    ∃ place name, Path.IsRooted c.output.filename (place ++ [name]) := by
  unfold load at h
  cases hread : s.read file with
  | error e =>
    rw [hread] at h
    cases h
  | ok content =>
    simp only [hread] at h
    -- a parsed text is as good as any, and it is better not computed
    generalize parse = read at h
    change ((read (environment.expand content.lossy)).mapError .parse >>=
      fun config => config.check s) = .ok c at h
    cases hparse : read (environment.expand content.lossy) with
    | error e =>
      rw [hparse] at h
      cases h
    | ok config =>
      rw [hparse] at h
      exact Output.isRooted_check (output_of_check h)

/-! ### Writing bindings -/

/-- Writing bindings fails with all files as they were, or it gives the output its new content. -/
theorem Config.writeBindings_cases {c : Config} {place : List String} {name : String}
    (hrooted : Path.IsRooted c.output.filename (place ++ [name])) (s : Store) (draws : Draws)
    (schema : Schema) :
    (∃ root e, c.writeBindings s draws (some schema) = ({ s with root }, .error e) ∧
        s.root.Leads root place) ∨
      ∃ root source, c.writeBindings s draws (some schema) = ({ s with root }, .ok source) ∧
        generate (some schema) c.options = .ok source ∧
        ({ s with root } : Store).read c.output.filename = .ok (Octets.ofString source) ∧
        ∃ made, s.root.Leads made place ∧ ∀ q, root.look? q =
          if q = place ++ [name] then some (.file (Octets.ofString source)) else made.look? q := by
  rw [writeBindings]
  cases hgenerate : generate (some schema) c.options with
  | error e => exact .inl ⟨s.root, _, rfl, .refl _ _⟩
  | ok source =>
    obtain ⟨made, hleads, hwrite⟩ :=
      s.write_cases draws c.output.filename (Octets.ofString source)
    rw [hrooted.names_directory, hrooted.base_eq] at hwrite
    rw [hrooted.names_directory] at hleads
    rcases hwrite with ⟨root, e, hwrite, hlook⟩ | ⟨root, hwrite, hshort, hlook⟩
    · simp only [hwrite]
      exact .inl ⟨root, _, rfl, hleads.congr hlook⟩
    · simp only [hwrite]
      refine .inr ⟨root, source, rfl, rfl, ?_, made, hleads, hlook⟩
      refine Store.read_of_look? hrooted hshort ?_
      show root.look? (place ++ [name]) = _
      rw [hlook, if_pos rfl]

/-! ### Runs -/

/-- What a run has loaded before it makes bindings: its arguments ask for bindings, and the configuration
and the schema are there. -/
structure World.Loads (w : World) (arguments : List String) (config : Config) (schema : Schema) :
    Prop where
  /-- The arguments ask for nothing else, and name the file of the configuration or let it be found. -/
  asks : ∃ r file, parseArguments arguments = .ok r ∧ r.help = false ∧ r.version = false ∧
    r.positional = [] ∧ w.configFile r.config = .ok file ∧
    Config.load w.store w.environment file = .ok config
  /-- The schema is the one that the configuration names. -/
  schema : (config.loadSchema w.store w.transport).2 = .ok schema

namespace World

theorem bind_eq (w : World) (config : Config) (schema : Schema) (log : List LogEntry) :
    (w.bind config schema log).store = (config.writeBindings w.store w.draws (some schema)).1 ∧
      (w.bind config schema log).result =
        ((config.writeBindings w.store w.draws (some schema)).2.mapError .bindings).map
          fun _ => () := by
  rw [bind]
  rcases config.writeBindings w.store w.draws (some schema) with ⟨store, e | source⟩ <;>
    exact ⟨rfl, rfl⟩

/-- Making bindings ends before there is anything to write, or it writes. -/
theorem generate_cases (w : World) (given : String) :
    ((w.generate given).store = w.store ∧ ∃ e, (w.generate given).result = .error e) ∨
      ∃ file config schema, w.configFile given = .ok file ∧
        Config.load w.store w.environment file = .ok config ∧
        (config.loadSchema w.store w.transport).2 = .ok schema ∧
        (w.generate given).store = (config.writeBindings w.store w.draws (some schema)).1 ∧
        (w.generate given).result =
          ((config.writeBindings w.store w.draws (some schema)).2.mapError .bindings).map
            fun _ => () := by
  rw [generate]
  cases hfile : w.configFile given with
  | error e => exact .inl ⟨rfl, _, rfl⟩
  | ok file =>
    cases hload : Config.load w.store w.environment file with
    | error e =>
      simp only [hload]
      exact .inl ⟨trivial, _, rfl⟩
    | ok config =>
      cases hschema : (config.loadSchema w.store w.transport).2 with
      | error e =>
        simp only [hload, hschema]
        exact .inl ⟨trivial, _, rfl⟩
      | ok schema =>
        simp only [hload, hschema]
        obtain ⟨hstore, hresult⟩ := w.bind_eq config schema
          [⟨.debug, "loading config", [("file", file)]⟩,
            ⟨.debug, "loaded schema", [("types", toString schema.types.toList.length)]⟩]
        exact .inr ⟨file, config, schema, rfl, hload, hschema, hstore, hresult⟩

/-- A run either ends before it makes bindings, and has changed nothing, or it writes bindings. -/
theorem run_cases (w : World) (arguments : List String) :
    ((w.run arguments).store = w.store ∧
        ((∃ e, (w.run arguments).result = .error e) ∨
          ∃ r, parseArguments arguments = .ok r ∧ (r.help = true ∨ r.version = true))) ∨
      ∃ config schema, w.Loads arguments config schema ∧
        (w.run arguments).store = (config.writeBindings w.store w.draws (some schema)).1 ∧
        (w.run arguments).result =
          ((config.writeBindings w.store w.draws (some schema)).2.mapError .bindings).map
            fun _ => () := by
  rw [run]
  cases hargs : parseArguments arguments with
  | error e => exact .inl ⟨rfl, .inl ⟨_, rfl⟩⟩
  | ok r =>
    simp only
    rw [serve]
    by_cases hhelp : r.help = true
    · rw [if_pos hhelp]
      exact .inl ⟨rfl, .inr ⟨r, rfl, .inl hhelp⟩⟩
    · rw [if_neg hhelp]
      by_cases hversion : r.version = true
      · rw [if_pos hversion]
        exact .inl ⟨rfl, .inr ⟨r, rfl, .inr hversion⟩⟩
      · rw [if_neg hversion]
        cases hpositional : r.positional with
        | cons argument rest => exact .inl ⟨rfl, .inl ⟨_, rfl⟩⟩
        | nil =>
          -- how much is told does not matter to the files and the result
          have hquiet : ∀ o : Outcome, (if r.verbose then o else
              { o with log := o.log.filter (·.level != .debug) }).store = o.store ∧
              (if r.verbose then o else
                { o with log := o.log.filter (·.level != .debug) }).result = o.result := by
            intro o
            cases r.verbose <;> exact ⟨rfl, rfl⟩
          simp only [(hquiet _).1, (hquiet _).2]
          rcases w.generate_cases r.config with
            ⟨hstore, e, hresult⟩ | ⟨file, config, schema, hfile, hload, hschema, hstore, hresult⟩
          · exact .inl ⟨hstore, .inl ⟨e, hresult⟩⟩
          · refine .inr ⟨config, schema, ⟨⟨r, file, hargs, ?_, ?_, hpositional, hfile, hload⟩,
              hschema⟩, hstore, hresult⟩
            · simpa using hhelp
            · simpa using hversion

theorem Loads.isRooted_output {w : World} {arguments : List String} {config : Config}
    {schema : Schema} (h : w.Loads arguments config schema) :
    ∃ place name, Path.IsRooted config.output.filename (place ++ [name]) := by
  obtain ⟨r, file, -, -, -, -, -, hload⟩ := h.asks
  exact Config.isRooted_output hload

/-- A run that fails leaves all files as they are, and makes at most directories on the way to the output. A
run that succeeds has either been asked for help or for the version, and changes nothing, or it has loaded a
configuration and a schema: then the output holds exactly the source that was made of them, and all else
is as it was, but for directories on the way to the output. -/
theorem run_touches_output_only (w : World) (arguments : List String) :
    (∀ e, (w.run arguments).result = .error e →
      (∀ place content, (w.run arguments).store.root.look? place = some (.file content) ↔
        w.store.root.look? place = some (.file content)) ∧
      ((w.run arguments).store = w.store ∨ ∃ config schema, w.Loads arguments config schema ∧
        w.store.root.Leads (w.run arguments).store.root
          (Path.names config.output.filename).dropLast)) ∧
    ((w.run arguments).result = .ok () →
      ((w.run arguments).store = w.store ∧
        ∃ r, parseArguments arguments = .ok r ∧ (r.help = true ∨ r.version = true)) ∨
      ∃ config schema source, w.Loads arguments config schema ∧
        Bindery.generate (some schema) config.options = .ok source ∧
        (w.run arguments).store.read config.output.filename = .ok (Octets.ofString source) ∧
        ∀ place ≠ Path.names config.output.filename,
          (w.run arguments).store.root.look? place = w.store.root.look? place ∨
            w.store.root.look? place = none ∧
              (w.run arguments).store.root.look? place = some .directory ∧
              place <+: (Path.names config.output.filename).dropLast) := by
  rcases w.run_cases arguments with ⟨hstore, hended⟩ | ⟨config, schema, hloads, hstore, hresult⟩
  · rw [hstore]
    refine ⟨fun _ _ => ⟨fun _ _ => Iff.rfl, .inl rfl⟩, fun hok => ?_⟩
    rcases hended with ⟨e, hresult⟩ | hasked
    · rw [hresult] at hok
      cases hok
    · exact .inl ⟨rfl, hasked⟩
  · obtain ⟨place, name, hrooted⟩ := hloads.isRooted_output
    have hplace : (Path.names config.output.filename).dropLast = place := by
      rw [hrooted.names_eq, List.dropLast_concat]
    rcases Config.writeBindings_cases hrooted w.store w.draws schema with
      ⟨root, e, hwrite, hleads⟩ | ⟨root, source, hwrite, hgenerate, hread, made, hleads, hlook⟩
    · rw [hwrite] at hstore hresult
      rw [hresult, hstore]
      refine ⟨fun _ _ => ⟨hleads.file_iff, .inr ⟨config, schema, hloads, ?_⟩⟩, nofun⟩
      rw [hplace]
      exact hleads
    · rw [hwrite] at hstore hresult
      rw [hresult, hstore]
      refine ⟨nofun, fun _ => .inr ⟨config, schema, source, hloads, hgenerate, hread, ?_⟩⟩
      intro q hq
      rw [hrooted.names_eq] at hq
      rw [hplace]
      show root.look? q = _ ∨ _
      rw [hlook, if_neg hq]
      exact hleads q

end World

end Bindery
