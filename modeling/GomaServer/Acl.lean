import Mathlib.Data.Finmap
import GomaServer.GoString

/-!
# The ACL checker

`Checker.Set` installs an ACL and keeps one account per service account the ACL
names; `CheckToken` finds the first group a token belongs to under the read lock,
and then, with the lock released, reads the account of the group's service
account. `account.Pool` and `account.Account` are not part of the source here:
they are the interface the checker calls, with one assumption, that no account
`Equals` a missing one. `AuthDB` is given by its answer at each group `FindGroup`
checks, so that any sequence of answers can be met.
-/

namespace GomaServer.Acl

/-- `pb.Group`: the fields the checker reads. -/
structure Group where
  id : String
  audience : String
  emails : List String
  domains : List String
  serviceAccount : String
  reject : Bool
  deriving DecidableEq, Repr

/-- `pb.ACL`. A nil config reads as no groups. -/
structure ACL where
  groups : List Group
  deriving DecidableEq, Repr

/-- `auth.TokenInfo`: the fields the checker reads. -/
structure TokenInfo where
  email : String
  audience : String
  deriving DecidableEq, Repr

/-- `account.Pool` and `account.Account`: `New` makes the account of a service
account, `Equals` compares a new account with the map's entry (`none` for a
missing one), and `Token` gets an OAuth2 access token. -/
structure AccountPool (Account : Type) where
  new : String → Except String Account
  equals : Account → Option Account → Bool
  token : Account → Except String String
  equals_none : ∀ sa, equals sa none = false

/-- A context error: `context.Canceled` or `context.DeadlineExceeded`. -/
inductive CtxErr where
  | canceled
  | deadlineExceeded
  deriving DecidableEq, Repr

/-- An error of `AuthDB.IsMember`: its text, and the context error it wraps, if any. -/
structure AuthDBError where
  text : String
  wraps : Option CtxErr
  deriving DecidableEq, Repr

/-- `AuthDB.IsMember(ctx, email, group)` as it answers at one call. -/
def IsMember := String → String → Except AuthDBError Bool

/-- `AuthDB` over one `FindGroup`: how it answers when the `i`-th group is
checked. The database is a service whose answers may change from one call to the
next, so every sequence of answers is one of these. -/
def AuthDB := Nat → IsMember

/-- The gRPC codes `CheckToken` answers with; a plain error is `Unknown`. -/
inductive Code where
  | canceled
  | unknown
  | deadlineExceeded
  | permissionDenied
  | internal
  deriving DecidableEq, Repr

/-- A gRPC status error. -/
structure Status where
  code : Code
  message : String
  deriving DecidableEq, Repr

/-- The checker's state: the installed ACL and the accounts by service account. -/
structure Checker (Account : Type) where
  config : ACL
  accounts : Finmap fun _ : String => Account

instance {Account : Type} [DecidableEq Account] : DecidableEq (Checker Account) := fun a b =>
  decidable_of_iff (a.config = b.config ∧ a.accounts = b.accounts) (by
    cases a; cases b; simp)

/-- A checker before its first `Set`. -/
def Checker.empty {Account : Type} : Checker Account := ⟨⟨[]⟩, ∅⟩

/-! ## Set -/

section Set

variable {Account : Type} (pool : AccountPool Account)

/-- The loop of `Set` over the groups: the error it stops at, the service accounts
it has seen, and the accounts map, which it updates in place. -/
def setLoop : List Group → List String → (Finmap fun _ : String => Account) →
    Option String × List String × (Finmap fun _ : String => Account)
  | [], seen, accounts => (none, seen, accounts)
  | g :: gs, seen, accounts =>
      if g.serviceAccount = "" then setLoop gs seen accounts
      else if g.serviceAccount ∈ seen then setLoop gs seen accounts
      else
        match pool.new g.serviceAccount with
        | .error err =>
            (some ("service account " ++ quote g.serviceAccount ++ ": " ++ err), seen, accounts)
        | .ok sa =>
            if pool.equals sa (accounts.lookup g.serviceAccount) then
              setLoop gs (g.serviceAccount :: seen) accounts
            else setLoop gs (g.serviceAccount :: seen) (accounts.insert g.serviceAccount sa)

/-- The deletion loop of `Set`, over the map's keys in one order of Go's range. -/
def deleteUnseen (seen : List String) (accounts : Finmap fun _ : String => Account) :
    Finmap fun _ : String => Account :=
  (sortStrings accounts.keys).foldl (fun acc sa => if sa ∈ seen then acc else acc.erase sa) accounts

/-- `Checker.Set`: the error, and the checker it leaves. A failed `Set` keeps the
old config and the accounts the loop had already stored. -/
def Checker.set (c : Checker Account) (config : ACL) : Option String × Checker Account :=
  match setLoop pool config.groups [] c.accounts with
  | (some err, _, accounts) => (some err, { c with accounts := accounts })
  | (none, seen, accounts) => (none, ⟨config, deleteUnseen seen accounts⟩)

end Set

theorem lookup_foldl_erase {Account : Type} (seen : List String) (sa : String) :
    ∀ (keys : List String) (accounts : Finmap fun _ : String => Account),
      (keys.foldl (fun acc sa => if sa ∈ seen then acc else acc.erase sa) accounts).lookup sa =
        if sa ∈ keys ∧ sa ∉ seen then none else accounts.lookup sa
  | [], accounts => by simp
  | key :: keys, accounts => by
      rw [List.foldl_cons, lookup_foldl_erase seen sa keys]
      by_cases hk : key = sa
      · subst hk; by_cases hs : key ∈ seen <;> simp [hs]
      · by_cases hs : key ∈ seen <;> simp [hs, Finmap.lookup_erase_ne (Ne.symm hk), Ne.symm hk]

/-- After the deletion loop an account stays exactly when its name was seen,
whatever order the range visits the keys in. -/
@[simp]
theorem lookup_deleteUnseen {Account : Type} (seen : List String)
    (accounts : Finmap fun _ : String => Account) (sa : String) :
    (deleteUnseen seen accounts).lookup sa = if sa ∈ seen then accounts.lookup sa else none := by
  rw [deleteUnseen, lookup_foldl_erase]
  by_cases hs : sa ∈ seen
  · simp [hs]
  · by_cases hk : sa ∈ accounts
    · simp [hs, hk, Finmap.mem_keys]
    · simp [hs, Finmap.lookup_eq_none.mpr hk]

@[simp]
theorem mem_deleteUnseen {Account : Type} (seen : List String)
    (accounts : Finmap fun _ : String => Account) (sa : String) :
    sa ∈ deleteUnseen seen accounts ↔ sa ∈ seen ∧ sa ∈ accounts := by
  simp only [← Finmap.lookup_isSome, lookup_deleteUnseen]
  split <;> simp_all

section SetLoop

variable {Account : Type} {pool : AccountPool Account}

/-- What one group does to the loop: it is skipped, it ends the loop with the
error of `New`, or its service account is seen and backed by an account, and no
account is dropped. -/
theorem setLoop_cons (g : Group) (gs : List Group) (seen : List String)
    (accounts : Finmap fun _ : String => Account) :
    (setLoop pool (g :: gs) seen accounts = setLoop pool gs seen accounts ∧
        (g.serviceAccount = "" ∨ g.serviceAccount ∈ seen)) ∨
      (g.serviceAccount ≠ "" ∧ ∃ err, pool.new g.serviceAccount = .error err ∧
        setLoop pool (g :: gs) seen accounts =
          (some ("service account " ++ quote g.serviceAccount ++ ": " ++ err), seen, accounts)) ∨
      ∃ accounts', g.serviceAccount ≠ "" ∧ g.serviceAccount ∈ accounts' ∧
        (∀ sa ∈ accounts, sa ∈ accounts') ∧
        (∃ acct, pool.new g.serviceAccount = .ok acct ∧
          (accounts' = accounts ∨ accounts' = accounts.insert g.serviceAccount acct)) ∧
        setLoop pool (g :: gs) seen accounts =
          setLoop pool gs (g.serviceAccount :: seen) accounts' := by
  rw [setLoop]
  by_cases blank : g.serviceAccount = ""
  · exact .inl ⟨if_pos blank, .inl blank⟩
  by_cases seenBefore : g.serviceAccount ∈ seen
  · exact .inl ⟨by rw [if_neg blank, if_pos seenBefore], .inr seenBefore⟩
  rw [if_neg blank, if_neg seenBefore]
  cases made : pool.new g.serviceAccount with
  | error err => exact .inr (.inl ⟨blank, err, rfl, rfl⟩)
  | ok sa =>
      refine .inr (.inr ?_)
      by_cases same : pool.equals sa (accounts.lookup g.serviceAccount) = true
      · have backed : g.serviceAccount ∈ accounts := by
          by_contra missing
          rw [Finmap.lookup_eq_none.mpr missing, pool.equals_none] at same
          cases same
        exact ⟨accounts, blank, backed, fun _ h => h, ⟨sa, rfl, .inl rfl⟩, if_pos same⟩
      · exact ⟨accounts.insert g.serviceAccount sa, blank, Finmap.mem_insert.mpr (.inl rfl),
          fun _ h => Finmap.mem_insert.mpr (.inr h), ⟨sa, rfl, .inr rfl⟩, if_neg same⟩

variable {gs : List Group} {seen seen' : List String}
  {accounts accounts' : Finmap fun _ : String => Account} {err : Option String}

/-- The loop never drops an account. -/
theorem setLoop_keeps (h : setLoop pool gs seen accounts = (err, seen', accounts')) {sa : String}
    (mem : sa ∈ accounts) : sa ∈ accounts' := by
  induction gs generalizing seen accounts with
  | nil => cases h; exact mem
  | cons g gs ih =>
      rcases setLoop_cons g gs seen accounts with ⟨eq, -⟩ | ⟨-, _, -, eq⟩ | ⟨_, -, -, keep, -, eq⟩
      · exact ih (eq ▸ h) mem
      · rw [eq] at h; cases h; exact mem
      · exact ih (eq ▸ h) (keep _ mem)

/-- The loop only adds to what it has seen. -/
theorem setLoop_mono (h : setLoop pool gs seen accounts = (err, seen', accounts')) :
    seen ⊆ seen' := by
  induction gs generalizing seen accounts with
  | nil => cases h; exact List.Subset.refl _
  | cons g gs ih =>
      rcases setLoop_cons g gs seen accounts with ⟨eq, -⟩ | ⟨-, _, -, eq⟩ | ⟨_, -, -, -, -, eq⟩
      · exact ih (eq ▸ h)
      · rw [eq] at h; cases h; exact List.Subset.refl _
      · exact (List.subset_cons_self _ _).trans (ih (eq ▸ h))

/-- Every service account the loop has seen is backed by an account. -/
theorem setLoop_backed (h : setLoop pool gs seen accounts = (err, seen', accounts'))
    (backed : ∀ sa ∈ seen, sa ∈ accounts) : ∀ sa ∈ seen', sa ∈ accounts' := by
  induction gs generalizing seen accounts with
  | nil => cases h; exact backed
  | cons g gs ih =>
      rcases setLoop_cons g gs seen accounts with ⟨eq, -⟩ | ⟨-, _, -, eq⟩ | ⟨_, -, mem, keep, -, eq⟩
      · exact ih (eq ▸ h) backed
      · rw [eq] at h; cases h; exact backed
      · refine ih (eq ▸ h) fun sa seenNow => ?_
        rcases List.mem_cons.mp seenNow with rfl | seenBefore
        · exact mem
        · exact keep _ (backed sa seenBefore)

/-- Only service accounts of the groups are seen. -/
theorem setLoop_named (h : setLoop pool gs seen accounts = (err, seen', accounts')) :
    ∀ sa ∈ seen', sa ∈ seen ∨ ∃ g ∈ gs, g.serviceAccount = sa := by
  induction gs generalizing seen accounts with
  | nil => cases h; exact fun _ mem => .inl mem
  | cons g gs ih =>
      have later : ∀ sa, (sa ∈ seen ∨ ∃ g' ∈ gs, g'.serviceAccount = sa) →
          sa ∈ seen ∨ ∃ g' ∈ g :: gs, g'.serviceAccount = sa := fun _ =>
        Or.imp_right fun ⟨g', mem, named⟩ => ⟨g', List.mem_cons_of_mem _ mem, named⟩
      rcases setLoop_cons g gs seen accounts with ⟨eq, -⟩ | ⟨-, _, -, eq⟩ | ⟨_, -, -, -, -, eq⟩
      · exact fun sa mem => later sa (ih (eq ▸ h) sa mem)
      · rw [eq] at h; cases h; exact fun _ mem => .inl mem
      · intro sa mem
        rcases ih (eq ▸ h) sa mem with seenNow | named
        · rcases List.mem_cons.mp seenNow with rfl | seenBefore
          · exact .inr ⟨g, List.mem_cons_self _ _, rfl⟩
          · exact .inl seenBefore
        · exact later sa (.inr named)

/-- A loop run to its end has seen the service account of every group naming one. -/
theorem setLoop_covers (h : setLoop pool gs seen accounts = (none, seen', accounts')) :
    ∀ g ∈ gs, g.serviceAccount ≠ "" → g.serviceAccount ∈ seen' := by
  induction gs generalizing seen accounts with
  | nil => exact fun _ mem => nomatch mem
  | cons g gs ih =>
      intro g' mem' named
      rcases setLoop_cons g gs seen accounts with ⟨eq, skipped⟩ | ⟨-, _, -, eq⟩ | ⟨_, -, -, -, -, eq⟩
      · rcases List.mem_cons.mp mem' with rfl | mem'
        · exact setLoop_mono (eq ▸ h) (skipped.resolve_left named)
        · exact ih (eq ▸ h) g' mem' named
      · rw [eq] at h; cases h
      · rcases List.mem_cons.mp mem' with rfl | mem'
        · exact setLoop_mono (eq ▸ h) (List.mem_cons_self _ _)
        · exact ih (eq ▸ h) g' mem' named

/-- An entry the loop changed belongs to a service account of the groups and holds
the account `New` made for it. -/
theorem setLoop_changed (h : setLoop pool gs seen accounts = (err, seen', accounts')) {sa : String}
    (changed : accounts'.lookup sa ≠ accounts.lookup sa) :
    (∃ g ∈ gs, g.serviceAccount = sa) ∧ ∃ acct, pool.new sa = .ok acct ∧
      accounts'.lookup sa = some acct := by
  induction gs generalizing seen accounts with
  | nil => cases h; exact absurd rfl changed
  | cons g gs ih =>
      have later : (∃ g' ∈ gs, g'.serviceAccount = sa) → ∃ g' ∈ g :: gs, g'.serviceAccount = sa :=
        fun ⟨g', mem, named⟩ => ⟨g', List.mem_cons_of_mem _ mem, named⟩
      rcases setLoop_cons g gs seen accounts with ⟨eq, -⟩ | ⟨-, _, -, eq⟩ |
          ⟨accounts₁, -, -, -, ⟨acct, made, stored⟩, eq⟩
      · exact (ih (eq ▸ h) changed).imp_left later
      · rw [eq] at h; cases h; exact absurd rfl changed
      · by_cases same : accounts'.lookup sa = accounts₁.lookup sa
        · rcases stored with rfl | rfl
          · exact absurd same changed
          · by_cases named : g.serviceAccount = sa
            · subst named
              exact ⟨⟨g, List.mem_cons_self _ _, rfl⟩, acct, made, by simp [same]⟩
            · rw [same, Finmap.lookup_insert_of_ne _ (Ne.symm named)] at changed
              exact absurd rfl changed
        · exact (ih (eq ▸ h) same).imp_left later

/-- The loop stops only at a service account of the groups whose `New` failed, and
its error names that service account. -/
theorem setLoop_error {e : String} (h : setLoop pool gs seen accounts = (some e, seen', accounts')) :
    ∃ g ∈ gs, g.serviceAccount ≠ "" ∧ ∃ err, pool.new g.serviceAccount = .error err ∧
      e = "service account " ++ quote g.serviceAccount ++ ": " ++ err := by
  induction gs generalizing seen accounts with
  | nil => cases h
  | cons g gs ih =>
      rcases setLoop_cons g gs seen accounts with ⟨eq, -⟩ | ⟨blank, err, made, eq⟩ |
          ⟨_, -, -, -, -, eq⟩
      · obtain ⟨g', mem, rest⟩ := ih (eq ▸ h)
        exact ⟨g', List.mem_cons_of_mem _ mem, rest⟩
      · rw [eq] at h
        cases h
        exact ⟨g, List.mem_cons_self _ _, blank, err, made, rfl⟩
      · obtain ⟨g', mem, rest⟩ := ih (eq ▸ h)
        exact ⟨g', List.mem_cons_of_mem _ mem, rest⟩

end SetLoop

/-- Every service account the installed ACL names is backed by an account. -/
def Covered {Account : Type} (c : Checker Account) : Prop :=
  ∀ g ∈ c.config.groups, g.serviceAccount ≠ "" → g.serviceAccount ∈ c.accounts

section Cover

variable {Account : Type} {pool : AccountPool Account}

/-- A successful `Set` installs its ACL and backs every service account the ACL
names, whatever accounts the checker held before. -/
theorem set_ok {c : Checker Account} {config : ACL} (ok : (c.set pool config).1 = none) :
    (c.set pool config).2.config = config ∧ Covered (c.set pool config).2 := by
  unfold Checker.set at ok ⊢
  split at ok
  · cases ok
  · next seen accounts loop =>
      refine ⟨rfl, fun g mem named => ?_⟩
      have seenIt := setLoop_covers loop g mem named
      exact (mem_deleteUnseen _ _ _).mpr ⟨seenIt, setLoop_backed loop nofun _ seenIt⟩

/-- A successful `Set` deletes the account of every service account the new ACL
does not name. -/
theorem set_deletes_unnamed {c : Checker Account} {config : ACL} {sa : String}
    (unnamed : ∀ g ∈ config.groups, g.serviceAccount ≠ sa) (ok : (c.set pool config).1 = none) :
    sa ∉ (c.set pool config).2.accounts := by
  unfold Checker.set at ok ⊢
  split at ok
  · cases ok
  · next seen accounts loop =>
      rw [mem_deleteUnseen]
      rintro ⟨seenIt, -⟩
      rcases setLoop_named loop sa seenIt with never | ⟨g, mem, named⟩
      · cases never
      · exact unnamed g mem named

/-- A `Set` that fails stops at a service account of the new ACL whose `New`
failed, and says so; it keeps the old ACL and every account, and the entries it
changed are service accounts of the new ACL, each holding the account `New` made
for it. -/
theorem set_error {c : Checker Account} {config : ACL} {err : String}
    (failed : (c.set pool config).1 = some err) :
    (∃ g ∈ config.groups, g.serviceAccount ≠ "" ∧ ∃ e, pool.new g.serviceAccount = .error e ∧
      err = "service account " ++ quote g.serviceAccount ++ ": " ++ e) ∧
      (c.set pool config).2.config = c.config ∧
      (∀ sa ∈ c.accounts, sa ∈ (c.set pool config).2.accounts) ∧
      ∀ sa, (c.set pool config).2.accounts.lookup sa ≠ c.accounts.lookup sa →
        (∃ g ∈ config.groups, g.serviceAccount = sa) ∧ ∃ acct, pool.new sa = .ok acct ∧
          (c.set pool config).2.accounts.lookup sa = some acct := by
  unfold Checker.set at failed ⊢
  split at failed
  · next e seen accounts loop =>
      cases failed
      exact ⟨setLoop_error loop, rfl, fun _ mem => setLoop_keeps loop mem,
        fun _ changed => setLoop_changed loop changed⟩
  · cases failed

end Cover

/-! ## CheckToken -/

/-- `match`: the email is one of `emails` or ends with `@` and one of `domains`. -/
def matchEmail (email : String) (emails domains : List String) : Bool :=
  emails.any (email == ·) || domains.any fun d => hasSuffix email ("@" ++ d)

theorem matchEmail_iff {email : String} {emails domains : List String} :
    matchEmail email emails domains = true ↔
      email ∈ emails ∨ ∃ d ∈ domains, hasSuffix email ("@" ++ d) = true := by
  simp [matchEmail]

/-- Why `FindGroup` fails: an error of `AuthDB`, or no group matches. -/
inductive FindError where
  | authDB (err : AuthDBError)
  | noMatchingGroup (text : String)
  deriving DecidableEq, Repr

/-- `status.FromContextError(ctx.Err()).Err()`. -/
def CtxErr.status : CtxErr → Status
  | .canceled => ⟨.canceled, "context canceled"⟩
  | .deadlineExceeded => ⟨.deadlineExceeded, "context deadline exceeded"⟩

/-- What `CheckToken` answers when `FindGroup` fails, given `ctx.Err()`. -/
def findGroupStatus : Option CtxErr → FindError → Status
  | some e, _ => e.status
  | none, .authDB ⟨text, some .deadlineExceeded⟩ => ⟨.deadlineExceeded, "find group failed: " ++ text⟩
  | none, .authDB ⟨text, some .canceled⟩ => ⟨.canceled, "find group canceled: " ++ text⟩
  | none, .noMatchingGroup _ => ⟨.permissionDenied, "access rejected"⟩
  | none, .authDB ⟨text, none⟩ => ⟨.unknown, text⟩

/-- The error `CheckToken` answers when the group's service account has no account. -/
def serviceAccountNotFound (sa : String) : Status :=
  ⟨.internal, "service account not found: " ++ sa⟩

section Check

variable {Account : Type} (pool : AccountPool Account) (authDB : Option AuthDB)

/-- `checkGroup`, with the answers of `AuthDB` at this call. -/
def checkGroup (isMember : Option IsMember) (tokenInfo : TokenInfo) (g : Group) :
    Except AuthDBError Bool :=
  if g.audience ≠ "" ∧ tokenInfo.audience ≠ g.audience then .ok false
  else
    match isMember with
    | some db =>
        if g.emails = [] ∧ g.domains = [] then db tokenInfo.email g.id
        else .ok (matchEmail tokenInfo.email g.emails g.domains)
    | none => .ok (matchEmail tokenInfo.email g.emails g.domains)

/-- The loop of `FindGroup` from the `i`-th group of the installed ACL on. -/
def findGroupFrom (tokenInfo : TokenInfo) : Nat → List Group → Except FindError Group
  | _, [] => .error (.noMatchingGroup ("no group for " ++ quote tokenInfo.email ++ " " ++
      quote tokenInfo.audience ++ ": no matching group"))
  | i, g :: gs =>
      match checkGroup (authDB.map (· i)) tokenInfo g with
      | .error err => .error (.authDB err)
      | .ok true => .ok g
      | .ok false => findGroupFrom tokenInfo (i + 1) gs

/-- `FindGroup` over the groups of the installed ACL, in order. -/
def findGroup (tokenInfo : TokenInfo) (gs : List Group) : Except FindError Group :=
  findGroupFrom authDB tokenInfo 0 gs

/-- The part of `CheckToken` after `FindGroup` has released the read lock: the
group's id and the token to use, read against the accounts map as it is then. -/
def answerGroup (accounts : Finmap fun _ : String => Account) (token : String) (g : Group) :
    String × Except Status String :=
  if g.reject then (g.id, .error ⟨.permissionDenied, "access rejected"⟩)
  else if g.serviceAccount = "" then (g.id, .ok token)
  else
    match accounts.lookup g.serviceAccount with
    | none => (g.id, .error (serviceAccountNotFound g.serviceAccount))
    | some sa =>
        match pool.token sa with
        | .error err =>
            (g.id, .error ⟨.internal, "service account:" ++ g.serviceAccount ++ " error:" ++ err⟩)
        | .ok saToken => (g.id, .ok saToken)

/-- `CheckToken` with its `FindGroup` run on `before` and its read of `c.accounts`
on `after`, the checker after the `Set` calls that land in between. -/
def checkTokenAcross (ctxErr : Option CtxErr) (before after : Checker Account) (token : String)
    (tokenInfo : TokenInfo) : String × Except Status String :=
  match findGroup authDB tokenInfo before.config.groups with
  | .error err => ("", .error (findGroupStatus ctxErr err))
  | .ok g => answerGroup pool after.accounts token g

/-- `Checker.CheckToken` with no `Set` inside it. -/
def Checker.checkToken (ctxErr : Option CtxErr) (c : Checker Account) (token : String)
    (tokenInfo : TokenInfo) : String × Except Status String :=
  checkTokenAcross pool authDB ctxErr c c token tokenInfo

end Check

section Find

variable {authDB : Option AuthDB} {tokenInfo : TokenInfo} {g : Group}

/-- The group `FindGroup` returns is the first whose check answers true: every
group before it was checked and answered false. -/
theorem findGroupFrom_ok : ∀ {i : Nat} {gs : List Group},
    findGroupFrom authDB tokenInfo i gs = .ok g →
      ∃ k, gs[k]? = some g ∧ checkGroup (authDB.map (· (i + k))) tokenInfo g = .ok true ∧
        ∀ j < k, ∀ g', gs[j]? = some g' →
          checkGroup (authDB.map (· (i + j))) tokenInfo g' = .ok false
  | _, [], h => nomatch h
  | i, g' :: gs, h => by
      simp only [findGroupFrom] at h
      split at h
      · cases h
      · cases h; exact ⟨0, by simp, ‹_›, nofun⟩
      · next rejected =>
          obtain ⟨k, found, passes, before⟩ := findGroupFrom_ok h
          refine ⟨k + 1, by simpa using found, by simpa [Nat.add_right_comm, Nat.add_assoc] using passes,
            fun j below g'' at_j => ?_⟩
          cases j with
          | zero =>
              obtain rfl : g' = g'' := by simpa using at_j
              exact rejected
          | succ j =>
              simpa [Nat.add_right_comm, Nat.add_assoc] using
                before j (by omega) g'' (by simpa using at_j)

end Find

section Answer

variable {Account : Type} {pool : AccountPool Account}

end Answer

section Race

variable {Account : Type} {pool : AccountPool Account} {authDB : Option AuthDB}
  {ctxErr : Option CtxErr} {token : String} {tokenInfo : TokenInfo}

/-- A successful `Set` whose ACL no longer names the service account of the
group `FindGroup` found, landing after `FindGroup` and before the read of
`c.accounts`, makes `CheckToken` answer that the service account is not found. -/
theorem set_between_phases_notFound {c : Checker Account} {g : Group}
    (found : findGroup authDB tokenInfo c.config.groups = .ok g) (allowed : g.reject = false)
    (named : g.serviceAccount ≠ "") {config : ACL}
    (unnamed : ∀ g' ∈ config.groups, g'.serviceAccount ≠ g.serviceAccount)
    (ok : (c.set pool config).1 = none) :
    checkTokenAcross pool authDB ctxErr c (c.set pool config).2 token tokenInfo =
      (g.id, .error (serviceAccountNotFound g.serviceAccount)) := by
  have gone := Finmap.lookup_eq_none.mpr (set_deletes_unnamed unnamed ok)
  simp [checkTokenAcross, found, answerGroup, allowed, named, gone]

end Race

/-- A service account. -/
def robot : String := "robot@goma.iam.gserviceaccount.com"

/-- A group of the users of `example.com`, served through `robot`. -/
def robotGroup : Group := ⟨"robot-users", "", [], ["example.com"], robot, false⟩

/-- A pool whose accounts are their service accounts' names. -/
def namePool : AccountPool String where
  new sa := .ok sa
  equals sa old := old == some sa
  token sa := .ok ("token-" ++ sa)
  equals_none _ := rfl

/-- `Set` installs the ACL of `robotGroup`; a `CheckToken` of a user of
`example.com` finds `robotGroup`; a `Set` of an empty ACL deletes the account of
`robot`; the `CheckToken` then reads `c.accounts` and answers `Internal`. -/
theorem checkToken_loses_account_to_set :
    checkTokenAcross namePool none none (Checker.empty.set namePool ⟨[robotGroup]⟩).2
        ((Checker.empty.set namePool ⟨[robotGroup]⟩).2.set namePool ⟨[]⟩).2 "user-token"
        ⟨"dev@example.com", ""⟩ =
      ("robot-users", .error (serviceAccountNotFound robot)) :=
  @set_between_phases_notFound String namePool none none "user-token" ⟨"dev@example.com", ""⟩
    (Checker.empty.set namePool ⟨[robotGroup]⟩).2 robotGroup rfl rfl (by decide) ⟨[]⟩ nofun rfl

/-- The service account of a group whose key cannot be had. -/
def broken : String := "broken@goma.iam.gserviceaccount.com"

/-- A group of the users of `example.org`, served through `broken`. -/
def brokenGroup : Group := ⟨"broken-users", "", [], ["example.org"], broken, false⟩

/-- A pool that makes the account of `robot` and fails for any other. -/
def robotOnlyPool : AccountPool String where
  new sa := if sa = robot then .ok sa else .error "no key"
  equals sa old := old == some sa
  token sa := .ok ("token-" ++ sa)
  equals_none _ := rfl

/-- From the empty checker, a `Set` of `robotGroup` then `brokenGroup` fails at
`broken`, and leaves the account it made for `robot` behind. -/
theorem set_error_keeps_robot :
    Checker.empty.set robotOnlyPool ⟨[robotGroup, brokenGroup]⟩ =
      (some ("service account " ++ quote broken ++ ": no key"),
        ⟨⟨[]⟩, Finmap.singleton robot robot⟩) := by
  decide

theorem set_error_broken :
    (Checker.empty.set robotOnlyPool ⟨[robotGroup, brokenGroup]⟩).1 = some ("service account " ++ quote broken ++ ": no key") ∧
      ((∃ g ∈ (⟨[robotGroup, brokenGroup]⟩ : ACL).groups, g.serviceAccount ≠ "" ∧ ∃ e,
          robotOnlyPool.new g.serviceAccount = .error e ∧
          ("service account " ++ quote broken ++ ": no key") = "service account " ++ quote g.serviceAccount ++ ": " ++ e) ∧
        (Checker.empty.set robotOnlyPool ⟨[robotGroup, brokenGroup]⟩).2.config = (Checker.empty : Checker String).config ∧
        (∀ sa ∈ (Checker.empty : Checker String).accounts, sa ∈ (Checker.empty.set robotOnlyPool ⟨[robotGroup, brokenGroup]⟩).2.accounts) ∧
        ∀ sa, (Checker.empty.set robotOnlyPool ⟨[robotGroup, brokenGroup]⟩).2.accounts.lookup sa ≠ (Checker.empty : Checker String).accounts.lookup sa →
          (∃ g ∈ (⟨[robotGroup, brokenGroup]⟩ : ACL).groups, g.serviceAccount = sa) ∧ ∃ acct, robotOnlyPool.new sa = .ok acct ∧
            (Checker.empty.set robotOnlyPool ⟨[robotGroup, brokenGroup]⟩).2.accounts.lookup sa = some acct) :=
  have failed : (Checker.empty.set robotOnlyPool ⟨[robotGroup, brokenGroup]⟩).1 = some ("service account " ++ quote broken ++ ": no key") := by decide
  ⟨failed, set_error failed⟩

/-! ## A token that passes -/

/-- A check that answers true saw the token's audience, when the group sets one,
and found its email listed, under a listed domain, or a member in `AuthDB`. -/
theorem checkGroup_true {isMember : Option IsMember} {tokenInfo : TokenInfo} {g : Group}
    (h : checkGroup isMember tokenInfo g = .ok true) :
    (g.audience ≠ "" → tokenInfo.audience = g.audience) ∧
      (tokenInfo.email ∈ g.emails ∨ (∃ d ∈ g.domains, hasSuffix tokenInfo.email ("@" ++ d) = true) ∨
        (g.emails = [] ∧ g.domains = [] ∧ ∃ db, isMember = some db ∧
          db tokenInfo.email g.id = .ok true)) := by
  unfold checkGroup at h
  split at h
  · cases h
  · next audience =>
      refine ⟨fun set => by_contra fun differs => audience ⟨set, differs⟩, ?_⟩
      by_cases asked : g.emails = [] ∧ g.domains = [] ∧ isMember.isSome
      · obtain ⟨noEmails, noDomains, some⟩ := asked
        obtain ⟨db, rfl⟩ := Option.isSome_iff_exists.mp some
        exact .inr (.inr ⟨noEmails, noDomains, db, rfl, by simpa [noEmails, noDomains] using h⟩)
      · have matched : matchEmail tokenInfo.email g.emails g.domains = true := by
          split at h
          · split at h
            · exact absurd ⟨‹_ ∧ _›.1, ‹_ ∧ _›.2, rfl⟩ asked
            · exact Except.ok.inj h
          · exact Except.ok.inj h
        exact (matchEmail_iff.mp matched).elim .inl (.inr ∘ .inl)

/-- The answer after `FindGroup` when it is a token: the group does not reject,
and the token is the caller's own or that of the group's service account. -/
theorem answerGroup_ok {Account : Type} {pool : AccountPool Account}
    {accounts : Finmap fun _ : String => Account} {token : String} {g : Group} {id tok : String}
    (h : answerGroup pool accounts token g = (id, .ok tok)) :
    id = g.id ∧ g.reject = false ∧ (g.serviceAccount = "" → tok = token) ∧
      (g.serviceAccount ≠ "" → ∃ acct, accounts.lookup g.serviceAccount = some acct ∧
        pool.token acct = .ok tok) := by
  unfold answerGroup at h
  cases allowed : g.reject with
  | true => simp [allowed] at h
  | false =>
      simp only [allowed, Bool.false_eq_true, if_false] at h
      by_cases own : g.serviceAccount = ""
      · simp only [own, if_true, Prod.mk.injEq, Except.ok.injEq] at h
        exact ⟨h.1.symm, rfl, fun _ => h.2.symm, fun named => absurd own named⟩
      simp only [own, if_false] at h
      cases found : accounts.lookup g.serviceAccount with
      | none => simp [found] at h
      | some acct =>
          cases minted : pool.token acct with
          | error err => simp [found, minted] at h
          | ok saToken =>
              simp only [found, minted, Prod.mk.injEq, Except.ok.injEq] at h
              exact ⟨h.1.symm, rfl, fun blank => absurd blank own, fun _ => ⟨acct, rfl, h.2 ▸ minted⟩⟩

/-- A `CheckToken` that answers a token found the first group of the installed
ACL whose check answers true, every group before it answering false; that group
does not reject, matches the token's audience when it sets one, and lists the
email, a domain of it, or learns from `AuthDB` that it is a member; the token is
the caller's own for a group without a service account and otherwise the one of
the account stored for it. -/
theorem checkToken_ok {Account : Type} {pool : AccountPool Account} {c : Checker Account}
    {authDB : Option AuthDB} {ctxErr : Option CtxErr} {token : String} {tokenInfo : TokenInfo}
    {id tok : String} (h : c.checkToken pool authDB ctxErr token tokenInfo = (id, .ok tok)) :
    ∃ k g, c.config.groups[k]? = some g ∧ id = g.id ∧
      (∀ j < k, ∀ g', c.config.groups[j]? = some g' →
        checkGroup (authDB.map (· j)) tokenInfo g' = .ok false) ∧
      checkGroup (authDB.map (· k)) tokenInfo g = .ok true ∧ g.reject = false ∧
      (g.audience ≠ "" → tokenInfo.audience = g.audience) ∧
      (tokenInfo.email ∈ g.emails ∨ (∃ d ∈ g.domains, hasSuffix tokenInfo.email ("@" ++ d) = true) ∨
        (g.emails = [] ∧ g.domains = [] ∧ ∃ db, authDB = some db ∧
          db k tokenInfo.email g.id = .ok true)) ∧
      (g.serviceAccount = "" → tok = token) ∧
      (g.serviceAccount ≠ "" → ∃ acct, c.accounts.lookup g.serviceAccount = some acct ∧
        pool.token acct = .ok tok) := by
  unfold Checker.checkToken checkTokenAcross at h
  split at h
  · cases h
  · next g found =>
      obtain ⟨k, at_k, passes, before⟩ := findGroupFrom_ok found
      simp only [Nat.zero_add] at passes before
      obtain ⟨rfl, allowed, own, account⟩ := answerGroup_ok h
      obtain ⟨audience, member⟩ := checkGroup_true passes
      refine ⟨k, g, at_k, rfl, before, passes, allowed, audience, ?_, own, account⟩
      rcases member with listed | domain | ⟨noEmails, noDomains, db, hdb, answered⟩
      · exact .inl listed
      · exact .inr (.inl domain)
      · obtain ⟨db', rfl, rfl⟩ := Option.map_eq_some'.mp hdb
        exact .inr (.inr ⟨noEmails, noDomains, db', rfl, answered⟩)

/-- A group for `AuthDB` to decide, ahead of `robotGroup`. -/
def auditorsGroup : Group := ⟨"auditors", "", [], [], "", false⟩

/-- An `AuthDB` that finds nobody a member. -/
def noMembers : AuthDB := fun _ _ _ => .ok false

/-- `AuthDB` turns the user away from `auditorsGroup`, and `robotGroup` takes the
user by domain. -/
theorem checkToken_ok_robot :
    (Checker.empty.set namePool ⟨[auditorsGroup, robotGroup]⟩).2.checkToken namePool (some noMembers : Option AuthDB) none "user-token" (⟨"dev@example.com", ""⟩ : TokenInfo) =
        ("robot-users", .ok ("token-" ++ robot)) ∧
    ∃ k g, (Checker.empty.set namePool ⟨[auditorsGroup, robotGroup]⟩).2.config.groups[k]? = some g ∧ "robot-users" = g.id ∧
      (∀ j < k, ∀ g', (Checker.empty.set namePool ⟨[auditorsGroup, robotGroup]⟩).2.config.groups[j]? = some g' →
        checkGroup ((some noMembers : Option AuthDB).map (· j)) (⟨"dev@example.com", ""⟩ : TokenInfo) g' = .ok false) ∧
      checkGroup ((some noMembers : Option AuthDB).map (· k)) (⟨"dev@example.com", ""⟩ : TokenInfo) g = .ok true ∧ g.reject = false ∧
      (g.audience ≠ "" → (⟨"dev@example.com", ""⟩ : TokenInfo).audience = g.audience) ∧
      ((⟨"dev@example.com", ""⟩ : TokenInfo).email ∈ g.emails ∨ (∃ d ∈ g.domains, hasSuffix (⟨"dev@example.com", ""⟩ : TokenInfo).email ("@" ++ d) = true) ∨
        (g.emails = [] ∧ g.domains = [] ∧ ∃ db, (some noMembers : Option AuthDB) = some db ∧
          db k (⟨"dev@example.com", ""⟩ : TokenInfo).email g.id = .ok true)) ∧
      (g.serviceAccount = "" → "token-" ++ robot = "user-token") ∧
      (g.serviceAccount ≠ "" → ∃ acct, (Checker.empty.set namePool ⟨[auditorsGroup, robotGroup]⟩).2.accounts.lookup g.serviceAccount = some acct ∧
        namePool.token acct = .ok ("token-" ++ robot)) :=
  have answered : (Checker.empty.set namePool ⟨[auditorsGroup, robotGroup]⟩).2.checkToken namePool (some noMembers : Option AuthDB) none "user-token" (⟨"dev@example.com", ""⟩ : TokenInfo) =
      ("robot-users", .ok ("token-" ++ robot)) := rfl
  ⟨answered, checkToken_ok answered⟩

end GomaServer.Acl
