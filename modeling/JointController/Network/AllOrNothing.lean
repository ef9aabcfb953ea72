import JointController.Network.ConfigStore

/-!
# What an operation of the configuration store leaves behind

An operation that raises should leave the store as it was, and a commit that returns should leave
the same configuration in memory and on disk.

* `SameStores`, `Committed`: the two outcomes.
* `AllOrNothing`: a call that leads to one of them.
* `Untorn`: the condition on the store and the call.  It excludes what is raised after a store has
  been changed: a digest that fails after `begin` or `rollback`, a value that the validation refuses
  after `patch` has put it into the transaction, a file action that fails after `commit` has
  replaced the file.
* `keeps_begin_iff`, `keeps_patch_iff`, `keeps_commit_iff`, `keeps_rollback_iff`: the operations
  one by one.
-/

namespace JointController

namespace Network

namespace ConfigStore

variable {env : Environment} (s s' : ConfigStore env)

/-! ## The outcomes -/

/-- The memory and the file are the same.  The names in `history_dir` may differ. -/
structure SameStores : Prop where
  config : s'.config = s.config
  revision : s'.revision = s.revision
  transaction : s'.transaction = s.transaction
  transactionBase : s'.transactionBase = s.transactionBase
  history : s'.history = s.history
  file : s'.file = s.file

theorem SameStores.refl : SameStores s s := ⟨rfl, rfl, rfl, rfl, rfl, rfl⟩

/-- A configuration that the validation accepts. -/
def Valid (env : Environment) (config : Config) : Prop :=
  ∃ reply, validateConfig env config = .ok reply

/-- Memory and file hold the validated transaction, under the next revision. -/
def Committed : Prop :=
  ∃ tx, s.transaction = some tx ∧ Valid env tx ∧ s'.config = s.nextConfig tx ∧
    env.safeDump s'.config = some s'.file ∧ s'.revision = s.revision + 1 ∧ s'.transaction = none

/-- An operation that raises leaves the store as it was. -/
def Keeps (result : Result env) : Prop := (∃ e, result.1 = .error e) → SameStores s result.2

/-- A call that raises leaves the store as it was, and a commit that returns is a commit. -/
def AllOrNothing (s : ConfigStore env) (call : Call) (s' : ConfigStore env) : Prop :=
  ((∃ e, (s.perform call).1 = .error e) → SameStores s s') ∧
    ∀ expected reply, call.operation = .commit expected → (s.perform call).1 = .ok reply →
      Committed s s'

/-! ## The condition -/

/-- The transaction with a field set. -/
def patched (f : MutableField) (value : Leaf) (tx : Config) (items : List (String × Leaf)) :
    Config :=
  setItem f.sectionName (.mapping (setItem f.key value items)) tx

/-- A patch of a transaction that is accepted. -/
def AcceptsPatch (env : Environment) (f : MutableField) (value : Leaf) (tx : Config) : Prop :=
  ∃ items, tx.lookup f.sectionName = some (.mapping items) ∧ value.isScalar = true ∧
    Valid env (patched f value tx items)

/-- A patch of an open transaction that is refused before it is made, accepted, or void. -/
def PatchSettles (env : Environment) (f : MutableField) (value : Leaf) (tx : Config) : Prop :=
  ∀ items, tx.lookup f.sectionName = some (.mapping items) → value.isScalar = true →
    Valid env (patched f value tx items) ∨ patched f value tx items = tx

/-- A commit whose checks pass, with what it writes to the file. -/
structure Accepted (expected : ℤ) (tx : Config) (content : env.Content) : Prop where
  open_transaction : s.transaction = some tx
  expected_revision : expected = s.revision
  base_revision : s.transactionBase = s.revision
  valid : Valid env tx
  hash_config : (env.hash s.config).isSome = true
  hash_next : (env.hash (s.nextConfig tx)).isSome = true
  dump : env.safeDump (s.nextConfig tx) = some content

/-- A file action of a commit after the replacement of the file. -/
def lateFault : Option FaultPoint → Bool
  | some (.file a) => a.late
  | some (.historyEntry _) => true
  | _ => false

/-- The condition on the store and the call. -/
def Untorn (call : Call) : Prop :=
  match call.operation with
  | .begin => s.transaction = none → (env.hash s.config).isSome = true
  | .patch path value => ∀ f, remoteMutable.find? (·.path == path) = some f →
    match s.transaction with
    | none => (env.hash s.config).isSome = true ∧ AcceptsPatch env f value s.config
    | some tx => PatchSettles env f value tx
  | .validate => True
  | .commit expected => ∀ tx content, s.Accepted expected tx content → lateFault call.fault = true →
    s.file = content
  | .rollback => s.transaction ≠ none → (env.hash s.config).isSome = true

/-! ## Digests and snapshots -/

variable {s s'}

theorem keeps_of_ok {result : Result env} {reply : Reply} (h : result.1 = .ok reply) :
    Keeps s result := by
  rintro ⟨e, he⟩
  rw [h] at he
  cases he

theorem keeps_of_same {result : Result env} (h : SameStores s result.2) : Keeps s result :=
  fun _ => h

/-- A result that always changes a store is only allowed to return. -/
theorem keeps_iff_of_changed {result : Result env} (h : ¬ SameStores s result.2) :
    Keeps s result ↔ ∃ reply, result.1 = .ok reply := by
  constructor
  · intro hkeeps
    cases hresult : result.1 with
    | error e => exact (h (hkeeps ⟨e, hresult⟩)).elim
    | ok reply => exact ⟨reply, rfl⟩
  · rintro ⟨reply, hreply⟩
    exact keeps_of_ok hreply

theorem hash_eq_ok {config : Config} :
    (∃ h, hash env config = .ok h) ↔ (env.hash config).isSome = true := by
  cases hconfig : env.hash config with
  | none => simp [hash, hconfig]
  | some h => simp [hash, hconfig]

theorem map_hash_eq_ok {config : Config} {reply : String → Reply} :
    (∃ r, (hash env config).map reply = .ok r) ↔ (env.hash config).isSome = true := by
  rw [← hash_eq_ok]
  cases hash env config with
  | error e => simp [Except.map]
  | ok h => simp [Except.map]

theorem snapshot_eq_ok : (∃ r, s.snapshot = .ok r) ↔ (env.hash s.config).isSome = true :=
  map_hash_eq_ok

/-- A configuration that the validation accepts has a digest. -/
theorem Valid.hash {config : Config} (h : Valid env config) : (env.hash config).isSome = true := by
  obtain ⟨reply, hreply⟩ := h
  unfold validateConfig at hreply
  cases hcheck : env.check config with
  | error e =>
    rw [hcheck] at hreply
    cases hreply
  | ok u =>
    rw [hcheck] at hreply
    exact map_hash_eq_ok.mp ⟨reply, hreply⟩

/-! ## `begin` and `rollback` -/

theorem opened_of_none (h : s.transaction = none) :
    s.opened = { s with transaction := some s.config, transactionBase := s.revision } := by
  simp only [opened, h]

theorem opened_of_some {tx : Config} (h : s.transaction = some tx) : s.opened = s := by
  simp only [opened, h]

theorem begin_eq_ok (h : s.transaction = none) :
    (∃ r, s.begin.1 = .ok r) ↔ (env.hash s.config).isSome = true := by
  have hconfig : s.opened.transactionSnapshot =
      (hash env s.config).map fun h => .transactionSnapshot s.config s.revision h := by
    rw [opened_of_none h]
    rfl
  change (∃ r, s.opened.transactionSnapshot = .ok r) ↔ _
  rw [hconfig]
  exact map_hash_eq_ok

theorem keeps_begin_iff :
    Keeps s s.begin ↔ (s.transaction = none → (env.hash s.config).isSome = true) := by
  cases htx : s.transaction with
  | none =>
    have hchanged : ¬ SameStores s s.begin.2 := by
      intro h
      have hopen := h.transaction
      rw [htx] at hopen
      simp only [begin, opened_of_none htx] at hopen
      cases hopen
    rw [keeps_iff_of_changed hchanged, begin_eq_ok htx]
    simp
  | some tx =>
    have hsame : SameStores s s.begin.2 := by
      simp only [begin, opened_of_some htx]
      exact SameStores.refl s
    simpa using keeps_of_same hsame

theorem keeps_rollback_iff :
    Keeps s s.rollback ↔ (s.transaction ≠ none → (env.hash s.config).isSome = true) := by
  by_cases htx : s.transaction = none
  · have hsame : SameStores s s.rollback.2 := ⟨rfl, rfl, htx.symm, rfl, rfl, rfl⟩
    simpa [htx] using keeps_of_same hsame
  · have hchanged : ¬ SameStores s s.rollback.2 := fun h => htx h.transaction.symm
    rw [keeps_iff_of_changed hchanged]
    constructor
    · intro h _
      exact snapshot_eq_ok.mp h
    · intro h
      exact snapshot_eq_ok.mpr (h htx)

/-! ## `patch` -/

/-- What a patch of an open transaction does: it is refused before anything is written, or the field
is written and then the validation decides. -/
theorem patchField_cases {f : MutableField} {value : Leaf} {tx : Config}
    (htx : s.transaction = some tx) :
    (∃ e, s.patchField f value = (.error e, s) ∧
      ∀ items, tx.lookup f.sectionName = some (.mapping items) → value.isScalar = false) ∨
    ∃ items, tx.lookup f.sectionName = some (.mapping items) ∧ value.isScalar = true ∧
      (s.patchField f value).2 = { s with transaction := some (patched f value tx items) } ∧
      ((∃ r, (s.patchField f value).1 = .ok r) ↔ Valid env (patched f value tx items)) := by
  cases hsection : tx.lookup f.sectionName with
  | none =>
    refine Or.inl ⟨.config ("unknown configuration path: " ++ f.path), ?_, by simp⟩
    simp only [patchField, htx, hsection]
  | some entry =>
    cases entry with
    | leaf v =>
      refine Or.inl ⟨.config "configuration path parent is not a mapping", ?_, by simp⟩
      simp only [patchField, htx, hsection]
    | mapping items =>
      cases hscalar : value.isScalar with
      | false =>
        refine Or.inl ⟨.config "configuration value must be a scalar number/string", ?_, by simp⟩
        simp [patchField, htx, hsection, patchSection, hscalar]
      | true =>
        refine Or.inr ⟨items, rfl, rfl, ?_⟩
        have hrun : s.patchField f value = s.patchSection f value tx items := by
          simp only [patchField, htx, hsection]
        rw [hrun]
        cases hvalid : validateConfig env (patched f value tx items) with
        | error e =>
          rw [patched] at hvalid
          simp [patchSection, hscalar, hvalid, Valid, patched]
        | ok reply =>
          have hpatched : Valid env (patched f value tx items) := ⟨reply, hvalid⟩
          have hok : ∃ r, ({ s with transaction := some (patched f value tx items) } :
              ConfigStore env).transactionSnapshot = .ok r :=
            map_hash_eq_ok.mpr hpatched.hash
          rw [patched] at hvalid hok hpatched
          simp [patchSection, hscalar, hvalid, patched, hpatched, hok]

theorem patchField_eq_ok {f : MutableField} {value : Leaf} {tx : Config}
    (htx : s.transaction = some tx) :
    (∃ r, (s.patchField f value).1 = .ok r) ↔ AcceptsPatch env f value tx := by
  obtain ⟨e, hrun, hnone⟩ | ⟨items, hsection, hscalar, -, hok⟩ := patchField_cases htx
  · rw [hrun]
    constructor
    · rintro ⟨r, hr⟩
      cases hr
    · rintro ⟨items, hsection, hscalar, -⟩
      rw [hnone items hsection] at hscalar
      cases hscalar
  · rw [hok]
    constructor
    · intro hvalid
      exact ⟨items, hsection, hscalar, hvalid⟩
    · rintro ⟨items', hsection', -, hvalid⟩
      rw [hsection] at hsection'
      cases hsection'
      exact hvalid

/-- A patch does not close the transaction. -/
theorem patchField_transaction {f : MutableField} {value : Leaf} {tx : Config}
    (htx : s.transaction = some tx) : (s.patchField f value).2.transaction ≠ none := by
  obtain ⟨e, hrun, -⟩ | ⟨items, -, -, hstore, -⟩ := patchField_cases htx
  · rw [hrun, htx]
    exact Option.some_ne_none tx
  · rw [hstore]
    exact Option.some_ne_none _

theorem keeps_patchField_iff {f : MutableField} {value : Leaf} {tx : Config}
    (htx : s.transaction = some tx) :
    Keeps s (s.patchField f value) ↔ PatchSettles env f value tx := by
  obtain ⟨e, hrun, hnone⟩ | ⟨items, hsection, hscalar, hstore, hok⟩ := patchField_cases htx
  · rw [hrun]
    constructor
    · intro _ items hsection hscalar
      rw [hnone items hsection] at hscalar
      cases hscalar
    · intro _
      exact keeps_of_same (SameStores.refl s)
  · have hsettles : PatchSettles env f value tx ↔
        (Valid env (patched f value tx items) ∨ patched f value tx items = tx) := by
      constructor
      · intro h
        exact h items hsection hscalar
      · intro h items' hsection' _
        rw [hsection] at hsection'
        cases hsection'
        exact h
    rw [hsettles]
    by_cases hvoid : patched f value tx items = tx
    · have hsame : SameStores s (s.patchField f value).2 := by
        rw [hstore, hvoid]
        exact ⟨rfl, rfl, htx.symm, rfl, rfl, rfl⟩
      simp [keeps_of_same hsame, hvoid]
    · have hchanged : ¬ SameStores s (s.patchField f value).2 := by
        intro h
        have htransaction := h.transaction
        rw [hstore, htx] at htransaction
        exact hvoid (Option.some_inj.mp htransaction)
      rw [keeps_iff_of_changed hchanged, hok]
      simp [hvoid]

/-- Without a transaction `patch` opens one, so that it may only return. -/
theorem keeps_patch_of_none {path : String} {f : MutableField} {value : Leaf}
    (hf : remoteMutable.find? (·.path == path) = some f) (htx : s.transaction = none) :
    Keeps s (s.patch path value) ↔
      (env.hash s.config).isSome = true ∧ AcceptsPatch env f value s.config := by
  have hopened : s.begin.2.transaction = some s.config := by
    simp only [begin, opened_of_none htx]
  cases hbegin : s.begin with
  | mk result t =>
    rw [hbegin] at hopened
    have hok := begin_eq_ok htx
    rw [hbegin] at hok
    rw [← hok]
    cases result with
    | error e =>
      have hrun : s.patch path value = (.error e, t) := by
        simp only [patch, hf, htx, if_true, hbegin]
      have hchanged : ¬ SameStores s (s.patch path value).2 := by
        intro h
        have htransaction := h.transaction
        rw [hrun, htx, hopened] at htransaction
        cases htransaction
      rw [keeps_iff_of_changed hchanged, hrun]
      simp
    | ok reply =>
      have hrun : s.patch path value = t.patchField f value := by
        simp only [patch, hf, htx, if_true, hbegin]
      have hchanged : ¬ SameStores s (s.patch path value).2 := by
        intro h
        have htransaction := h.transaction
        rw [hrun, htx] at htransaction
        exact patchField_transaction hopened htransaction
      rw [keeps_iff_of_changed hchanged, hrun, patchField_eq_ok hopened]
      simp

theorem keeps_patch_iff {path : String} {value : Leaf} :
    Keeps s (s.patch path value) ↔
      ∀ f, remoteMutable.find? (·.path == path) = some f →
        match s.transaction with
        | none => (env.hash s.config).isSome = true ∧ AcceptsPatch env f value s.config
        | some tx => PatchSettles env f value tx := by
  cases hf : remoteMutable.find? (·.path == path) with
  | none =>
    have hrun : (s.patch path value).2 = s := by simp only [patch, hf]
    have hsame : SameStores s (s.patch path value).2 := by
      rw [hrun]
      exact SameStores.refl s
    simpa using keeps_of_same hsame
  | some f =>
    simp only [Option.some_inj, forall_eq']
    cases htx : s.transaction with
    | none => exact keeps_patch_of_none hf htx
    | some tx =>
      have hrun : s.patch path value = s.patchField f value := by
        simp [patch, hf, htx]
      rw [hrun]
      exact keeps_patchField_iff htx

/-! ## `commit` -/

theorem prepareCommit_eq_ok {expected : ℤ} {tx : Config} :
    (∃ entry, s.prepareCommit expected tx = .ok entry) ↔
      expected = s.revision ∧ s.transactionBase = s.revision ∧ Valid env tx ∧
        (env.hash s.config).isSome = true ∧ (env.hash (s.nextConfig tx)).isSome = true := by
  unfold prepareCommit Valid
  by_cases hrevision : expected = s.revision ∧ s.transactionBase = s.revision
  · cases validateConfig env tx with
    | error e => simp [Checks.refuse, hrevision, bind, Except.bind]
    | ok reply =>
      rw [← hash_eq_ok, ← hash_eq_ok]
      cases hash env s.config with
      | error e => simp [Checks.refuse, hrevision, bind, Except.bind]
      | ok oldHash =>
        cases hash env (s.nextConfig tx) with
        | error e => simp [Checks.refuse, hrevision, bind, Except.bind]
        | ok newHash => simp [Checks.refuse, hrevision, bind, Except.bind, pure, Except.pure]
  · have hrefuse : expected ≠ s.revision ∨ s.transactionBase ≠ s.revision := by
      by_contra hnot
      simp only [not_or, not_not] at hnot
      exact hrevision hnot
    have hnot : ¬ (expected = s.revision ∧ s.transactionBase = s.revision ∧
        (∃ reply, validateConfig env tx = .ok reply) ∧ (env.hash s.config).isSome = true ∧
        (env.hash (s.nextConfig tx)).isSome = true) :=
      fun h => hrevision ⟨h.1, h.2.1⟩
    simp only [hnot, iff_false]
    simp [Checks.refuse, hrefuse, bind, Except.bind]

/-- The backup only touches `history_dir`. -/
theorem backUp_store (fault : Option FaultPoint) (name : HistoryName) :
    ∃ dir, (s.backUp fault name).2 = { s with historyDir := dir } := by
  by_cases hmake : fault = some .makeHistoryDir ∨ fault = some .backupExists
  · exact ⟨s.historyDir, by simp [backUp, hmake]⟩
  · by_cases hname : name ∈ s.historyDir
    · exact ⟨s.historyDir, by simp [backUp, hmake, hname]⟩
    · simp only [backUp, hmake, hname, if_false]
      split
      · exact ⟨s.historyDir, rfl⟩
      · split_ifs
        · exact ⟨name :: s.historyDir, rfl⟩
        · exact ⟨s.historyDir, rfl⟩
      · exact ⟨name :: s.historyDir, rfl⟩

/-- A late fault is not a fault of the backup. -/
theorem backUp_of_lateFault (fault : Option FaultPoint) (name : HistoryName)
    (h : lateFault fault = true) : (s.backUp fault name).1 = true := by
  cases fault with
  | none => cases h
  | some point =>
    cases point with
    | makeHistoryDir => cases h
    | backupExists => cases h
    | readFile => cases h
    | backup a => cases h
    | file a => by_cases hname : name ∈ s.historyDir <;> simp [backUp, hname]
    | historyEntry a => by_cases hname : name ∈ s.historyDir <;> simp [backUp, hname]

/-- The store after the writing part of `commit`. -/
def written (tx : Config) (content : env.Content) (entry : HistoryEntry) : ConfigStore env :=
  { s with
    file := content
    historyDir := .commit entry.revision (entry.newHash.take 12).toString :: s.historyDir
  }.install tx entry

/-- The writing part of `commit`: it is torn by a late fault, stopped by an early one, or goes
through. -/
theorem writeConfig_cases (fault : Option FaultPoint) (tx : Config) (content : env.Content)
    (entry : HistoryEntry) :
    (lateFault fault = true ∧ ∃ e dir,
      s.writeConfig fault tx content entry =
        (.error e, { s with file := content, historyDir := dir })) ∨
    (lateFault fault = false ∧ ∃ e, s.writeConfig fault tx content entry = (.error e, s)) ∨
    (lateFault fault = false ∧ s.writeConfig fault tx content entry =
        ((s.written tx content entry).snapshot, s.written tx content entry)) := by
  cases fault with
  | none => exact Or.inr (Or.inr ⟨rfl, rfl⟩)
  | some point =>
    cases point with
    | makeHistoryDir => exact Or.inr (Or.inr ⟨rfl, rfl⟩)
    | backupExists => exact Or.inr (Or.inr ⟨rfl, rfl⟩)
    | readFile => exact Or.inr (Or.inr ⟨rfl, rfl⟩)
    | backup a => exact Or.inr (Or.inr ⟨rfl, rfl⟩)
    | file a =>
      cases hlate : a.late with
      | true => exact Or.inl ⟨hlate, .builtin, s.historyDir, by simp [writeConfig, hlate]⟩
      | false => exact Or.inr (Or.inl ⟨hlate, .builtin, by simp [writeConfig, hlate]⟩)
    | historyEntry a =>
      refine Or.inl ⟨rfl, .builtin, ?_⟩
      cases hlate : a.late with
      | true =>
        refine ⟨.commit entry.revision (entry.newHash.take 12).toString :: s.historyDir, ?_⟩
        simp only [writeConfig, finishCommit, hlate, if_true]
      | false => exact ⟨s.historyDir, by simp [writeConfig, finishCommit, hlate]⟩

/-- The names in `history_dir` may differ. -/
theorem sameStores_historyDir (dir : List HistoryName) :
    SameStores s { s with historyDir := dir } := ⟨rfl, rfl, rfl, rfl, rfl, rfl⟩

/-- The part of a commit behind its checks is stopped, is torn by a late fault, or goes through. -/
theorem commit_of_prepared {expected : ℤ} (fault : Option FaultPoint) {tx : Config}
    {entry : HistoryEntry} (htx : s.transaction = some tx)
    (hprepare : s.prepareCommit expected tx = .ok entry) :
    ((∃ e, (s.commit expected fault).1 = .error e) ∧ SameStores s (s.commit expected fault).2 ∧
      (lateFault fault = true → env.safeDump (s.nextConfig tx) = none)) ∨
    (lateFault fault = true ∧ ∃ e content dir, env.safeDump (s.nextConfig tx) = some content ∧
      s.commit expected fault = (.error e, { s with file := content, historyDir := dir })) ∨
    ((∃ reply, (s.commit expected fault).1 = .ok reply) ∧
      Committed s (s.commit expected fault).2 ∧ lateFault fault = false) := by
  obtain ⟨hexpected, hbase, hvalid, hconfig, hnext⟩ := prepareCommit_eq_ok.mp ⟨entry, hprepare⟩
  obtain ⟨dir, hdir⟩ := s.backUp_store fault (.backup s.revision (entry.oldHash.take 12).toString)
  have hlate := backUp_of_lateFault (s := s) fault
    (.backup s.revision (entry.oldHash.take 12).toString)
  cases hbackup : s.backUp fault (.backup s.revision (entry.oldHash.take 12).toString) with
  | mk goesOn t =>
    rw [hbackup] at hdir hlate
    replace hdir : t = { s with historyDir := dir } := hdir
    have hsame : SameStores s t := by
      rw [hdir]
      exact sameStores_historyDir dir
    have hnextConfig : t.nextConfig tx = s.nextConfig tx := by
      rw [nextConfig, hsame.revision]
      rfl
    cases goesOn with
    | false =>
      have hrun : s.commit expected fault = (.error .builtin, t) := by
        simp only [commit, htx, hprepare, hbackup]
      rw [hrun]
      refine Or.inl ⟨⟨.builtin, rfl⟩, hsame, fun h => ?_⟩
      cases hlate h
    | true =>
      cases hdump : env.safeDump (s.nextConfig tx) with
      | none =>
        have hrun : s.commit expected fault = (.error .builtin, t) := by
          simp only [commit, htx, hprepare, hbackup, hnextConfig, hdump]
        rw [hrun]
        exact Or.inl ⟨⟨.builtin, rfl⟩, hsame, fun _ => rfl⟩
      | some content =>
        have hrun : s.commit expected fault = t.writeConfig fault tx content entry := by
          simp only [commit, htx, hprepare, hbackup, hnextConfig, hdump]
        rw [hrun]
        subst hdir
        obtain ⟨htorn, e, dir', hwrite⟩ | ⟨hearly, e, hwrite⟩ | ⟨hearly, hwrite⟩ :=
          { s with historyDir := dir }.writeConfig_cases fault tx content entry
        · exact Or.inr (Or.inl ⟨htorn, e, content, dir', rfl, hwrite⟩)
        · rw [hwrite]
          refine Or.inl ⟨⟨e, rfl⟩, hsame, fun h => ?_⟩
          rw [h] at hearly
          cases hearly
        · rw [hwrite]
          exact Or.inr (Or.inr ⟨snapshot_eq_ok.mpr hnext, ⟨tx, htx, hvalid, rfl, hdump, rfl, rfl⟩,
            hearly⟩)

/-- The same of a whole commit, which its checks may refuse. -/
theorem commit_cases (expected : ℤ) (fault : Option FaultPoint) :
    ((∃ e, (s.commit expected fault).1 = .error e) ∧ SameStores s (s.commit expected fault).2 ∧
      ∀ tx content, s.Accepted expected tx content → lateFault fault = false) ∨
    (lateFault fault = true ∧ ∃ e tx content dir, s.Accepted expected tx content ∧
      s.commit expected fault = (.error e, { s with file := content, historyDir := dir })) ∨
    ((∃ reply, (s.commit expected fault).1 = .ok reply) ∧
      Committed s (s.commit expected fault).2 ∧ lateFault fault = false) := by
  cases htx : s.transaction with
  | none =>
    have hrun : s.commit expected fault =
        (.error (.config "no configuration transaction"), s) := by
      simp only [commit, htx]
    rw [hrun]
    refine Or.inl ⟨⟨_, rfl⟩, SameStores.refl s, fun tx content h => ?_⟩
    rw [h.open_transaction] at htx
    cases htx
  | some tx =>
    cases hprepare : s.prepareCommit expected tx with
    | error e =>
      have hrun : s.commit expected fault = (.error e, s) := by simp only [commit, htx, hprepare]
      rw [hrun]
      refine Or.inl ⟨⟨e, rfl⟩, SameStores.refl s, fun tx' content h => ?_⟩
      obtain rfl : tx' = tx := Option.some_inj.mp (h.open_transaction.symm.trans htx)
      obtain ⟨entry, hentry⟩ := prepareCommit_eq_ok.mpr ⟨h.expected_revision, h.base_revision,
        h.valid, h.hash_config, h.hash_next⟩
      rw [hprepare] at hentry
      cases hentry
    | ok entry =>
      obtain ⟨hexpected, hbase, hvalid, hconfig, hnext⟩ := prepareCommit_eq_ok.mp ⟨entry, hprepare⟩
      obtain ⟨herror, hsame, hdump⟩ | ⟨hlate, e, content, dir, hdump, hrun⟩ | hdone :=
        commit_of_prepared fault htx hprepare
      · refine Or.inl ⟨herror, hsame, fun tx' content h => ?_⟩
        obtain rfl : tx' = tx := Option.some_inj.mp (h.open_transaction.symm.trans htx)
        refine Bool.eq_false_iff.mpr fun hlate => ?_
        have hdumps := h.dump
        rw [hdump hlate] at hdumps
        cases hdumps
      · refine Or.inr (Or.inl ⟨hlate, e, tx, content, dir,
          ⟨htx, hexpected, hbase, hvalid, hconfig, hnext, hdump⟩, ?_⟩)
        rw [hrun, ← htx]
      · exact Or.inr (Or.inr hdone)

theorem keeps_commit_iff {expected : ℤ} {fault : Option FaultPoint} :
    Keeps s (s.commit expected fault) ↔ ∀ tx content, s.Accepted expected tx content →
      lateFault fault = true → s.file = content := by
  obtain ⟨-, hsame, hnot⟩ | ⟨hlate, e, tx, content, dir, haccepted, hrun⟩ |
      ⟨⟨reply, hok⟩, -, hnot⟩ :=
    s.commit_cases expected fault
  · constructor
    · intro _ tx content haccepted hlate
      rw [hnot tx content haccepted] at hlate
      cases hlate
    · intro _
      exact keeps_of_same hsame
  · constructor
    · intro hkeeps tx' content' haccepted' _
      have hfile := (hkeeps ⟨e, by rw [hrun]⟩).file
      rw [hrun] at hfile
      have htx : tx' = tx := Option.some_inj.mp
        (haccepted'.open_transaction.symm.trans haccepted.open_transaction)
      have hdump := haccepted'.dump
      rw [htx, haccepted.dump] at hdump
      exact hfile.symm.trans (Option.some_inj.mp hdump)
    · intro hfile
      rw [hrun]
      exact keeps_of_same ⟨rfl, rfl, rfl, rfl, rfl, (hfile tx content haccepted hlate).symm⟩
  · constructor
    · intro _ tx content _ hlate
      rw [hnot] at hlate
      cases hlate
    · intro _
      exact keeps_of_ok hok

/-- A commit that returns has committed. -/
theorem committed_of_ok {expected : ℤ} {fault : Option FaultPoint} {reply : Reply}
    (h : (s.commit expected fault).1 = .ok reply) : Committed s (s.commit expected fault).2 := by
  obtain ⟨⟨e, he⟩, -⟩ | ⟨-, e, tx, content, dir, -, hrun⟩ | ⟨-, hdone, -⟩ :=
    s.commit_cases expected fault
  · rw [he] at h
    cases h
  · rw [hrun] at h
    cases h
  · exact hdone

/-! ## Runs -/

theorem keeps_validate : Keeps s s.validate := keeps_of_same (SameStores.refl s)

theorem keeps_perform_iff (call : Call) : Keeps s (s.perform call) ↔ s.Untorn call := by
  obtain ⟨operation, fault⟩ := call
  cases operation with
  | begin => exact keeps_begin_iff
  | patch path value => exact keeps_patch_iff
  | validate => exact iff_of_true keeps_validate trivial
  | commit expected => exact keeps_commit_iff
  | rollback => exact keeps_rollback_iff

/-- One call is all-or-nothing exactly when it meets the condition. -/
theorem allOrNothing_perform_iff (call : Call) :
    AllOrNothing s call (s.perform call).2 ↔ s.Untorn call := by
  rw [← keeps_perform_iff]
  refine ⟨fun h => h.1, fun h => ⟨h, fun expected reply hcommit hok => ?_⟩⟩
  obtain ⟨operation, fault⟩ := call
  subst hcommit
  exact committed_of_ok hok

/-- The calls of a run are all-or-nothing exactly when each of them meets the condition. -/
theorem throughout_allOrNothing_iff {s₀ s : ConfigStore env} {calls : List Call}
    (hrun : Runs.exec step s₀ calls = some s) :
    Runs.Throughout step AllOrNothing s₀ calls ↔
      Runs.Meets step Untorn s₀ calls := by
  refine Runs.throughout_iff_meets (fun s call s' hstep => ?_) hrun
  obtain rfl : (s.perform call).2 = s' := Option.some_inj.mp hstep
  exact allOrNothing_perform_iff call

/-- In a run from the start of the server. -/
theorem allOrNothing_iff_untorn {file : env.Content} {history : List HistoryEntry}
    {historyDir : List HistoryName} {calls : List Call} {s₀ s : ConfigStore env}
    (_hload : load env file history historyDir = some s₀)
    (hrun : Runs.exec step s₀ calls = some s) :
    Runs.Throughout step AllOrNothing s₀ calls ↔
      Runs.Meets step Untorn s₀ calls :=
  throughout_allOrNothing_iff hrun

/-! ## A small configuration -/

/-- A configuration with the two sections. -/
def sampleConfig (revision : ℤ) (jogStepRad : ℚ) : Config :=
  [("config_revision", .leaf (.int revision)),
    ("arm", .mapping [("jog_step_rad", .float (.finite jogStepRad)),
      ("max_step_rad", .float (.finite (1 / 16))), ("max_speed_rad_s", .float (.finite (1 / 2)))]),
    ("lift", .mapping [("min_position_m", .float (.finite (-1))),
      ("max_position_m", .float (.finite 0)), ("jog_step_m", .float (.finite (1 / 32))),
      ("max_step_m", .float (.finite (1 / 16))), ("max_speed_mps", .float (.finite (1 / 16))),
      ("acceleration_mps2", .float (.finite (1 / 2)))])]

/-- Its text. -/
def sampleText (revision jogStepRad : String) : String :=
  "config_revision: " ++ revision ++ "\narm:\n  jog_step_rad: " ++ jogStepRad ++
    "\n  max_step_rad: 0.0625\n  max_speed_rad_s: 0.5\nlift:\n  min_position_m: -1.0\n" ++
    "  max_position_m: 0.0\n  jog_step_m: 0.03125\n  max_step_m: 0.0625\n" ++
    "  max_speed_mps: 0.0625\n  acceleration_mps2: 0.5\n"

/-- The configurations of the example: on disk, patched, and committed. -/
def sampleTexts : List (Config × String) :=
  [(sampleConfig 1 (1 / 32), sampleText "1" "0.03125"),
    (sampleConfig 1 (1 / 16), sampleText "1" "0.0625"),
    (sampleConfig 2 (1 / 16), sampleText "2" "0.0625")]

/-- Their digests. -/
def sampleHashes : List (Config × String) :=
  [(sampleConfig 1 (1 / 32), "fe4c2874fe67daa703e9cd857db951054ecabaa1ab29f3fdca71aeda08a66311"),
    (sampleConfig 1 (1 / 16), "c630f64c2884480d4a546119d42bf0ffde9f7cc67d216cdf04a5e2d6fff72c7f"),
    (sampleConfig 2 (1 / 16), "2155555e4b0101b5a9c78c04b9ea3bd662e2f9447cf0b14b5951a914ecf15702")]

/-- The libraries, on these configurations. -/
def sampleEnvironment : Environment where
  Content := String
  parseFloat _ := none
  parseInt _ := none
  floatOfInt n := if n.natAbs ≤ 2 ^ 53 then some (.finite n) else none
  hash config := sampleHashes.lookup config
  safeDump config := sampleTexts.lookup config
  safeLoad text := (sampleTexts.find? fun row => row.2 == text).map Prod.fst

instance : DecidableEq sampleEnvironment.Content := inferInstanceAs (DecidableEq String)

/-- The store of a server that has started with the first configuration. -/
def sampleStore : ConfigStore sampleEnvironment where
  config := sampleConfig 1 (1 / 32)
  revision := 1
  transaction := none
  transactionBase := 0
  history := []
  file := sampleText "1" "0.03125"
  historyDir := []

theorem load_sample :
    load sampleEnvironment (sampleText "1" "0.03125") [] [] = some sampleStore := by
  have hload : sampleEnvironment.safeLoad (sampleText "1" "0.03125") =
      some (sampleConfig 1 (1 / 32)) := by decide +kernel
  have hrevision : sampleEnvironment.int
      (((sampleConfig 1 (1 / 32)).lookup "config_revision").getD (.leaf (.int 0))) = some 1 := by
    decide +kernel
  simp only [load, hload, hrevision]
  rfl

/-- The store with a transaction begun. -/
def sampleBegun : ConfigStore sampleEnvironment := (sampleStore.perform ⟨.begin, none⟩).2

/-- The store with the field set in the transaction. -/
def samplePatched : ConfigStore sampleEnvironment :=
  (sampleBegun.perform ⟨.patch "arm.jog_step_rad" (.float (.finite (1 / 16))), none⟩).2

/-- Two runs that break the rule: a patch whose value is refused stays in the transaction, and a
commit whose record cannot be written has replaced the file while the memory keeps the old
revision. -/
theorem not_allOrNothing_sample :
    load sampleEnvironment (sampleText "1" "0.03125") [] [] = some sampleStore ∧
    ¬ Runs.Throughout step AllOrNothing sampleStore
      [⟨.begin, none⟩, ⟨.patch "arm.jog_step_rad" (.int 5), none⟩] ∧
    ¬ Runs.Throughout step AllOrNothing sampleStore
      [⟨.begin, none⟩, ⟨.patch "arm.jog_step_rad" (.float (.finite (1 / 16))), none⟩,
        ⟨.commit 1, some (.historyEntry .write)⟩] := by
  refine ⟨load_sample, fun h => ?_, fun h => ?_⟩
  · replace h : Runs.Throughout step AllOrNothing sampleStore
        ([⟨.begin, none⟩] ++ [⟨.patch "arm.jog_step_rad" (.int 5), none⟩]) := h
    have hlast := h.last (t := sampleBegun) rfl rfl
    have hraises : (sampleBegun.perform ⟨.patch "arm.jog_step_rad" (.int 5), none⟩).1 =
        .error (.config "arm.jog_step_rad must be in (0, 0.1]") := by decide +kernel
    have hdiffers : (sampleBegun.perform ⟨.patch "arm.jog_step_rad" (.int 5), none⟩).2.transaction ≠
        sampleBegun.transaction := by decide +kernel
    exact hdiffers (hlast.1 ⟨_, hraises⟩).transaction
  · replace h : Runs.Throughout step AllOrNothing sampleStore
        ([⟨.begin, none⟩, ⟨.patch "arm.jog_step_rad" (.float (.finite (1 / 16))), none⟩] ++
          [⟨.commit 1, some (.historyEntry .write)⟩]) := h
    have hlast := h.last (t := samplePatched) rfl rfl
    have hraises : (samplePatched.perform ⟨.commit 1, some (.historyEntry .write)⟩).1 =
        .error .builtin := by decide +kernel
    have hdiffers : (samplePatched.perform ⟨.commit 1, some (.historyEntry .write)⟩).2.file ≠
        samplePatched.file := by decide +kernel
    exact hdiffers (hlast.1 ⟨_, hraises⟩).file

/-- The call returns, or it is a patch of an unknown field or a commit without a late fault. -/
def untornTest {env : Environment} (s : ConfigStore env) (call : Call) : Bool :=
  (s.perform call).1.toOption.isSome ||
    match call.operation with
    | .patch path _ => (remoteMutable.find? (·.path == path)).isNone
    | .commit _ => !lateFault call.fault
    | _ => false

theorem untorn_of_test {env : Environment} (s : ConfigStore env) (call : Call)
    (h : untornTest s call = true) : s.Untorn call := by
  obtain hreturns | hrefused := Bool.or_eq_true_iff.mp h
  · refine (keeps_perform_iff call).mp ?_
    cases hresult : (s.perform call).1 with
    | ok reply => exact keeps_of_ok hresult
    | error e =>
      rw [hresult] at hreturns
      cases hreturns
  · obtain ⟨operation, fault⟩ := call
    cases operation with
    | patch path value =>
      intro f hf
      dsimp only at hrefused
      rw [hf] at hrefused
      cases hrefused
    | commit expected =>
      intro tx content _ hlate
      dsimp only at hrefused hlate
      rw [hlate] at hrefused
      cases hrefused
    | _ => cases hrefused

/-- A patch of an unknown field and a commit of another revision are refused, a patch and a commit
are carried out. -/
def untornRun : List Call :=
  [⟨.begin, none⟩, ⟨.patch "arm.colour" (.int 1), none⟩,
    ⟨.patch "arm.jog_step_rad" (.float (.finite (1 / 16))), none⟩, ⟨.commit 7, none⟩,
    ⟨.commit 1, none⟩]

theorem meets_untornRun : Runs.Meets step Untorn sampleStore untornRun :=
  Runs.meets_of_passes untorn_of_test (by decide +kernel)

/-- The run meets the condition, and each call does all or nothing. -/
theorem allOrNothing_iff_untorn_sample :
    Runs.Meets step Untorn sampleStore untornRun ∧
      Runs.Throughout step AllOrNothing sampleStore untornRun :=
  ⟨meets_untornRun, (allOrNothing_iff_untorn load_sample rfl).mpr meets_untornRun⟩

end ConfigStore

end Network

end JointController
