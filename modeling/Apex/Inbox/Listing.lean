import Apex.Inbox.Sequence

/-!
Listing the stored commands page by page.

A page holds the commands after a cursor that match a filter, up to a limit, and
tells whether there are more; the number of its last command is the next cursor.
`list_eq` says what a page holds. The cursor is correct as far as the numbers
are: between two pages anything may happen to the inbox, and a command that is
there all along is returned exactly once if its number stays (`pages_stable`).
The loader draws the numbers anew, so a reopen after a sweep can move a command
back behind the cursor (`renumberedListing_skips`).
-/

namespace Apex.Inbox

open Control FileCommandInbox Lines Runs Saturating InboxState List KeyMap

inductive DeliveryStatus where
  | pending
  | delivered
  | acknowledged
  | exhausted
  | cancelled
  deriving DecidableEq, Repr

def resolveDeliveryStatus (cancelled acknowledged : Bool) (attempts maxAttempts : UInt32) :
    DeliveryStatus :=
  if cancelled then .cancelled
  else if acknowledged then .acknowledged
  else if attempts = 0 then .pending
  else if maxAttempts ≤ attempts then .exhausted
  else .delivered

/-- One listed command. -/
structure CommandSummary where
  commandId : String
  agentId : String
  action : String
  state : DeliveryStatus
  deliveryAttempt : UInt32
  issuedAt : String
  sequence : UInt64
  deriving DecidableEq, Repr

/-- What a listing is narrowed to. -/
structure ListFilter where
  workspaceId : String
  namespaceId : String
  agentId : Option String
  state : Option DeliveryStatus
  maxAttempts : UInt32

structure ListCommandsQuery extends ListFilter where
  afterSequence : UInt64
  limit : Nat

/-- The status of an entry. -/
def Entry.status (maxAttempts : UInt32) (entry : Entry) : DeliveryStatus :=
  resolveDeliveryStatus entry.cancelled entry.acknowledged entry.attempts maxAttempts

def Entry.summary (maxAttempts : UInt32) (entry : Entry) : CommandSummary where
  commandId := entry.command.commandId
  agentId := entry.command.agentId
  action := entry.command.action
  state := entry.status maxAttempts
  deliveryAttempt := entry.attempts
  issuedAt := entry.command.issuedAt
  sequence := entry.sequence

/-- The scan over the order: it goes on past what does not match, and stops at
the first match beyond the limit. -/
def InboxState.listFrom (state : InboxState) (query : ListCommandsQuery) :
    List InboxKey → List CommandSummary → List CommandSummary × Bool
  | [], collected => (collected, false)
  | key :: rest, collected =>
      match state.entries.lookup key with
      | none => state.listFrom query rest collected
      | some entry =>
          if entry.sequence ≤ query.afterSequence then state.listFrom query rest collected
          else if entry.command.workspaceId ≠ query.workspaceId ∨
              entry.command.namespaceId ≠ query.namespaceId then
            state.listFrom query rest collected
          else if query.agentId.any (entry.command.agentId ≠ ·) then
            state.listFrom query rest collected
          else if query.state.any (· ≠ entry.status query.maxAttempts) then
            state.listFrom query rest collected
          else if query.limit ≤ collected.length then (collected, true)
          else state.listFrom query rest (collected ++ [entry.summary query.maxAttempts])

def InboxState.list (state : InboxState) (query : ListCommandsQuery) :
    List CommandSummary × Bool :=
  state.listFrom query state.order []

/-! ### What a page holds -/

/-- The entry is in the scope, of the agent and in the state asked for. -/
def ListFilter.admits (filter : ListFilter) (entry : Entry) : Bool :=
  entry.command.workspaceId = filter.workspaceId &&
    entry.command.namespaceId = filter.namespaceId &&
    filter.agentId.all (entry.command.agentId = ·) &&
    filter.state.all (· = entry.status filter.maxAttempts)

/-- The live commands in their order. -/
def InboxState.live (state : InboxState) : List Entry :=
  state.order.filterMap state.entries.lookup

/-- The entry belongs to the listing after a cursor. -/
def ListFilter.wants (filter : ListFilter) (after : UInt64) (entry : Entry) : Bool :=
  decide (after < entry.sequence) && filter.admits entry

/-- The commands of a listing after a cursor. -/
def InboxState.matched (state : InboxState) (filter : ListFilter) (after : UInt64) : List Entry :=
  state.live.filter (filter.wants after)

/-- The four tests of the scan are one. -/
theorem listFrom_cons {state : InboxState} {query key entry}
    (found : state.entries.lookup key = some entry) (rest : List InboxKey)
    (collected : List CommandSummary) :
    state.listFrom query (key :: rest) collected =
      if query.wants query.afterSequence entry then
        if query.limit ≤ collected.length then (collected, true)
        else state.listFrom query rest (collected ++ [entry.summary query.maxAttempts])
      else state.listFrom query rest collected := by
  simp only [InboxState.listFrom, found]
  by_cases early : entry.sequence ≤ query.afterSequence
  · have unwanted : query.wants query.afterSequence entry = false := by
      simp [ListFilter.wants, UInt64.not_lt.mpr early]
    rw [if_pos early, unwanted]
    rfl
  · have late : query.afterSequence < entry.sequence := UInt64.not_le.mp early
    rw [if_neg early]
    by_cases elsewhere : entry.command.workspaceId ≠ query.workspaceId ∨
        entry.command.namespaceId ≠ query.namespaceId
    · have unwanted : query.wants query.afterSequence entry = false := by
        rcases elsewhere with other | other <;> simp [ListFilter.wants, ListFilter.admits, other]
      rw [if_pos elsewhere, unwanted]
      rfl
    · obtain ⟨workspace, namespace_⟩ := not_or.mp elsewhere
      rw [if_neg elsewhere]
      have wanted : query.wants query.afterSequence entry =
          (query.agentId.all (entry.command.agentId = ·) &&
            query.state.all (· = entry.status query.maxAttempts)) := by
        simp [ListFilter.wants, ListFilter.admits, late, not_not.mp workspace,
          not_not.mp namespace_]
      have agent : (query.agentId.any fun agentId => entry.command.agentId ≠ agentId) =
          !query.agentId.all (entry.command.agentId = ·) := by
        cases query.agentId <;> simp
      have status : (query.state.any fun state => state ≠ entry.status query.maxAttempts) =
          !query.state.all (· = entry.status query.maxAttempts) := by
        cases query.state <;> simp
      rw [wanted, agent, status]
      cases query.agentId.all (entry.command.agentId = ·) <;>
        cases query.state.all (· = entry.status query.maxAttempts) <;> rfl

/-- The scan from some point on. -/
theorem listFrom_eq (state : InboxState) (query : ListCommandsQuery) (keys : List InboxKey)
    {collected : List CommandSummary} (room : collected.length ≤ query.limit) :
    state.listFrom query keys collected =
      (collected ++ (((keys.filterMap state.entries.lookup).filter
          (query.wants query.afterSequence)).take (query.limit - collected.length)).map
          (Entry.summary query.maxAttempts),
        decide (query.limit - collected.length < ((keys.filterMap state.entries.lookup).filter
          (query.wants query.afterSequence)).length)) := by
  induction keys generalizing collected with
  | nil => simp [InboxState.listFrom]
  | cons key rest ih =>
    cases found : state.entries.lookup key with
    | none =>
      rw [filterMap_cons, found]
      simp only [InboxState.listFrom, found]
      exact ih room
    | some entry =>
      rw [listFrom_cons found, filterMap_cons, found]
      dsimp only
      rw [filter_cons]
      split_ifs with wanted full
      · have none : query.limit - collected.length = 0 := by omega
        simp [none]
      · have some : query.limit - collected.length =
            (query.limit - (collected ++ [entry.summary query.maxAttempts]).length) + 1 := by
          rw [length_append, length_singleton]
          omega
        rw [ih (by rw [length_append, length_singleton]; omega), some,
          take_succ_cons, map_cons, append_assoc, singleton_append]
        simp only [length_cons, Nat.add_lt_add_iff_right]
      · exact ih room

/-- A page holds the first matches, and tells whether there are more. -/
theorem list_eq (state : InboxState) (query : ListCommandsQuery) :
    state.list query =
      (((state.matched query.toListFilter query.afterSequence).take query.limit).map
        (Entry.summary query.maxAttempts),
        decide (query.limit < (state.matched query.toListFilter query.afterSequence).length)) := by
  rw [InboxState.list, listFrom_eq state query state.order (Nat.zero_le _)]
  rfl

/-! ### The numbers of a page -/

section Pages

variable {state : InboxState} {filter : ListFilter} {after : UInt64}

variable {entry : Entry}

theorem mem_live :
    entry ∈ state.live ↔ ∃ key ∈ state.order, state.entries.lookup key = some entry :=
  mem_filterMap

/-- The numbers grow along the live commands. -/
theorem increasing_live (sequenced : state.Sequenced) :
    state.live.Pairwise fun earlier later => earlier.sequence < later.sequence := by
  have same : state.live = state.liveOrder.filterMap state.entries.lookup := by
    rw [live, liveOrder, filterMap_filter]
    refine filterMap_congr fun key _ => ?_
    split_ifs with present
    · rfl
    · exact AList.lookup_eq_none.mpr (by simpa using present)
  rw [same, pairwise_filterMap]
  exact sequenced.increasing.imp fun grows first found second found' =>
    grows first second found found'

theorem matched_sublist : (state.matched filter after).Sublist state.live :=
  filter_sublist

theorem mem_matched :
    entry ∈ state.matched filter after ↔
      entry ∈ state.live ∧ after < entry.sequence ∧ filter.admits entry = true := by
  simp only [matched, ListFilter.wants, mem_filter, Bool.and_eq_true, decide_eq_true_eq]

/-- Among admitted commands an identifier names one. -/
theorem eq_of_commandId (wf : state.WellFormed) {key other}
    (found : state.entries.lookup key = some entry) (admitted : filter.admits entry = true)
    (mem : other ∈ state.live) (admitted' : filter.admits other = true)
    (same : other.command.commandId = key.commandId) : other = entry := by
  obtain ⟨key', -, found'⟩ := mem_live.mp mem
  have own := (wf.ownKey key entry found).1
  have own' := (wf.ownKey key' other found').1
  simp only [ListFilter.admits, Bool.and_eq_true, decide_eq_true_eq] at admitted admitted'
  obtain rfl : key' = key := by
    subst own own'
    simp only [PendingCommand.key, InboxKey.mk.injEq]
    exact ⟨admitted'.1.1.1.trans admitted.1.1.1.symm, admitted'.1.1.2.trans admitted.1.1.2.symm,
      same⟩
  exact Option.some.inj (found'.symm.trans found)

/-- A part of the matches has a command once or not at all. -/
theorem count_part (wf : state.WellFormed) (sequenced : state.Sequenced) {key}
    (found : state.entries.lookup key = some entry) (admitted : filter.admits entry = true)
    {part : List Entry} (sub : part.Sublist (state.matched filter after)) :
    (part.map (Entry.summary filter.maxAttempts)).countP
        (fun summary => summary.commandId = key.commandId) = if entry ∈ part then 1 else 0 := by
  have distinct : part.Nodup := by
    refine ((increasing_live sequenced).sublist (sub.trans matched_sublist)).imp ?_
    rintro first second less rfl
    exact UInt64.lt_irrefl _ less
  have own : entry.command.commandId = key.commandId :=
    congrArg InboxKey.commandId (wf.ownKey key entry found).1
  have named : ∀ other ∈ part,
      (Entry.summary filter.maxAttempts other).commandId = key.commandId ↔ other = entry := by
    intro other mem
    obtain ⟨live, -, admitted'⟩ := mem_matched.mp (sub.subset mem)
    constructor
    · exact eq_of_commandId wf found admitted live admitted'
    · rintro rfl
      exact own
  have counted : (part.map (Entry.summary filter.maxAttempts)).countP
      (fun summary => summary.commandId = key.commandId) = part.count entry := by
    rw [countP_map, List.count]
    refine countP_congr fun other mem => ?_
    simpa using named other mem
  rw [counted]
  split_ifs with mem
  · exact count_eq_one_of_mem distinct mem
  · exact count_eq_zero_of_not_mem mem

end Pages

/-! ### Walks over the pages -/

/-- A call of the inbox, or the next page of a listing. A page has room for one
command at least. -/
inductive ListAction where
  | call (call : InboxCall)
  | page (limit : Nat) (positive : 0 < limit)

/-- A listing under way: the inbox, the cursor of the next page until the last
one was taken, and what was returned so far. -/
structure Listing where
  inbox : Option FileCommandInbox
  cursor : Option UInt64
  returned : List CommandSummary

def listStep (config : InboxConfig) (filter : ListFilter) (listing : Listing) :
    ListAction → Listing
  | .call call => { listing with inbox := callStep config listing.inbox call }
  | .page limit _ =>
      match listing.inbox, listing.cursor with
      | some inbox, some afterSequence =>
          let (commands, hasMore) := inbox.state.list { filter with afterSequence, limit }
          { listing with
            cursor := if hasMore then commands.getLast?.map CommandSummary.sequence else none
            returned := listing.returned ++ commands }
      | _, _ => listing

/-- The command is stored and matches the filter. -/
def Present (filter : ListFilter) (key : InboxKey) (listing : Listing) : Prop :=
  ∃ inbox entry, listing.inbox = some inbox ∧ inbox.state.entries.lookup key = some entry ∧
    filter.admits entry = true

theorem present_iff {filter key listing} :
    Present filter key listing ↔ (listing.inbox.any fun inbox =>
      (inbox.state.entries.lookup key).any filter.admits) = true := by
  simp [Present, Option.any_eq_true]

instance (filter : ListFilter) (key : InboxKey) : DecidablePred (Present filter key) :=
  fun _ => decidable_of_iff _ present_iff.symm

/-- The call of the inbox an action is, if it is one. -/
def ListAction.inboxCall : ListAction → Option InboxCall
  | .call made => some made
  | .page _ _ => none

/-- The call of a walk keeps the numbers. -/
def KeepsListed (listing : Listing) : ListAction → Prop
  | .call call => KeepsNumbers listing.inbox call
  | .page _ _ => True

/-- What was returned lies behind the cursor, in the order of its numbers. -/
structure Paged (listing : Listing) : Prop where
  increasing : listing.returned.Pairwise fun earlier later => earlier.sequence < later.sequence
  behind : ∀ afterSequence, listing.cursor = some afterSequence →
    ∀ summary ∈ listing.returned, summary.sequence ≤ afterSequence

/-- A command with this number was returned once if the cursor is past it, and
not yet otherwise. -/
structure Tracks (key : InboxKey) (number : UInt64) (listing : Listing) : Prop where
  numbered : ∀ inbox entry, listing.inbox = some inbox →
    inbox.state.entries.lookup key = some entry → entry.sequence = number
  counted : listing.returned.countP (fun summary => summary.commandId = key.commandId) =
    if listing.cursor.all (number ≤ ·) then 1 else 0

section Walks

variable {config : InboxConfig} {filter : ListFilter} {listing : Listing}

variable {limit : Nat} {positive : 0 < limit} {key : InboxKey} {number : UInt64}

theorem listStep_page {inbox after} (isOpen : listing.inbox = some inbox)
    (cursor : listing.cursor = some after) :
    listStep config filter listing (.page limit positive) =
      { inbox := some inbox
        cursor :=
          if limit < (inbox.state.matched filter after).length then
            ((inbox.state.matched filter after).take limit).getLast?.map Entry.sequence
          else none
        returned := listing.returned ++
          ((inbox.state.matched filter after).take limit).map
            (Entry.summary filter.maxAttempts) } := by
  obtain ⟨_, _, returned⟩ := listing
  obtain rfl := isOpen
  obtain rfl := cursor
  simp only [listStep, list_eq, decide_eq_true_eq, List.getLast?_map, Option.map_map]
  rfl

theorem listStep_page_of_none (closed : listing.inbox = none ∨ listing.cursor = none) :
    listStep config filter listing (.page limit positive) = listing := by
  obtain ⟨inbox, cursor, returned⟩ := listing
  rcases closed with rfl | rfl
  · rfl
  · cases inbox <;> rfl

/-- A page leaves the inbox as it was. -/
theorem inbox_page :
    (listStep config filter listing (.page limit positive)).inbox = listing.inbox := by
  cases isOpen : listing.inbox with
  | none => rw [listStep_page_of_none (.inl isOpen), isOpen]
  | some inbox =>
    cases cursor : listing.cursor with
    | none => rw [listStep_page_of_none (.inr cursor), isOpen]
    | some after => rw [listStep_page isOpen cursor]

/-- The calls of a walk, seen from the listing. -/
theorem keepsListed_of_calls {walk : List ListAction}
    (keeps : AllSteps (callStep config) KeepsNumbers listing.inbox
      (walk.filterMap ListAction.inboxCall)) :
    AllSteps (listStep config filter) KeepsListed listing walk := by
  induction walk generalizing listing with
  | nil => trivial
  | cons action rest ih =>
    cases action with
    | call made =>
      change AllSteps _ _ _ (made :: rest.filterMap ListAction.inboxCall) at keeps
      exact ⟨keeps.1, ih keeps.2⟩
    | page limit positive =>
      rw [filterMap_cons_none rfl] at keeps
      exact ⟨trivial, ih (by rwa [inbox_page])⟩

theorem FollowedWorld.listStep (followed : FollowedWorld config listing.inbox) {action}
    (keeps : KeepsListed listing action) :
    FollowedWorld config (listStep config filter listing action).inbox := by
  cases action with
  | call call => exact followed.step keeps
  | page limit positive =>
    rw [inbox_page]
    exact followed

/-- The last command of a full page divides the matches: the page lies up to it
and the rest beyond. -/
theorem le_getLast_iff {state : InboxState} (sequenced : state.Sequenced) {after final}
    (last : ((state.matched filter after).take limit).getLast? = some final) {entry}
    (mem : entry ∈ state.matched filter after) :
    entry.sequence ≤ final.sequence ↔ entry ∈ (state.matched filter after).take limit := by
  have increasing := (increasing_live sequenced).sublist (@matched_sublist state filter after)
  obtain ⟨front, taken⟩ := List.getLast?_eq_some_iff.mp last
  have split := take_append_drop limit (state.matched filter after)
  rw [← split] at increasing mem
  rw [pairwise_append] at increasing
  constructor
  · intro least
    refine (mem_append.mp mem).resolve_right fun later => ?_
    exact absurd (increasing.2.2 final (by simp [taken]) entry later) (UInt64.not_lt.mpr least)
  · intro early
    have ordered := increasing.1
    rw [taken] at ordered early
    rcases mem_append.mp early with before | is
    · exact UInt64.le_of_lt ((pairwise_append.mp ordered).2.2 entry before final (by simp))
    · rw [mem_singleton.mp is]
      exact UInt64.le_refl _

/-- A page goes on in the order of the numbers. -/
theorem Paged.page (paged : Paged listing) (followed : FollowedWorld config listing.inbox) :
    Paged (listStep config filter listing (.page limit positive)) := by
  cases isOpen : listing.inbox with
  | none =>
    rw [listStep_page_of_none (.inl isOpen)]
    exact paged
  | some inbox =>
    cases cursor : listing.cursor with
    | none =>
      rw [listStep_page_of_none (.inr cursor)]
      exact paged
    | some after =>
      rw [listStep_page isOpen cursor]
      obtain ⟨-, sequenced⟩ := followed inbox isOpen
      have increasing := (increasing_live sequenced).sublist
        (((inbox.state.matched filter after).take_sublist limit).trans matched_sublist)
      have ahead {entry : Entry}
          (mem : entry ∈ (inbox.state.matched filter after).take limit) :
          after < entry.sequence := (mem_matched.mp (mem_of_mem_take mem)).2.1
      constructor
      · refine pairwise_append.mpr ⟨paged.increasing, ?_, ?_⟩
        · rw [pairwise_map]
          exact increasing
        · intro earlier old later new
          obtain ⟨entry, mem, rfl⟩ := mem_map.mp new
          exact UInt64.lt_of_le_of_lt (paged.behind after cursor earlier old) (ahead mem)
      · intro next is summary mem
        dsimp only at is
        split_ifs at is with more
        obtain ⟨final, last, rfl⟩ := Option.map_eq_some_iff.mp is
        have finalMem := mem_of_getLast? last
        rcases mem_append.mp mem with old | new
        · exact UInt64.le_trans (paged.behind after cursor summary old)
            (UInt64.le_of_lt (ahead finalMem))
        · obtain ⟨entry, taken, rfl⟩ := mem_map.mp new
          exact (le_getLast_iff sequenced last (mem_of_mem_take taken)).mpr taken

/-- A page returns the command if its number is the next to come. -/
theorem Tracks.page (tracks : Tracks key number listing)
    (followed : FollowedWorld config listing.inbox) (present : Present filter key listing) :
    Tracks key number (listStep config filter listing (.page limit positive)) := by
  obtain ⟨inbox, entry, isOpen, found, admitted⟩ := present
  obtain rfl := tracks.numbered inbox entry isOpen found
  cases cursor : listing.cursor with
  | none =>
    rw [listStep_page_of_none (.inr cursor)]
    exact tracks
  | some after =>
    rw [listStep_page isOpen cursor]
    obtain ⟨here, sequenced⟩ := followed inbox isOpen
    have before := tracks.counted
    simp only [cursor, Option.all_some, decide_eq_true_eq] at before
    have new := count_part here.wellFormed sequenced found admitted
      ((inbox.state.matched filter after).take_sublist limit)
    have live : entry ∈ inbox.state.live := by
      have mem := mem_of_lookup found
      exact mem_live.mpr ⟨key, here.wellFormed.orderComplete key mem, found⟩
    have wanted : entry ∈ inbox.state.matched filter after ↔ after < entry.sequence := by
      rw [mem_matched]
      exact ⟨fun mem => mem.2.1, fun ahead => ⟨live, ahead, admitted⟩⟩
    refine ⟨fun other stored is held => ?_, ?_⟩
    · obtain rfl := Option.some.inj is
      rw [Option.some.inj (held.symm.trans found)]
    · rw [countP_append, new, before]
      by_cases behind : entry.sequence ≤ after
      · -- It was returned before, and the cursor only grows.
        have out : entry ∉ (inbox.state.matched filter after).take limit := fun mem =>
          UInt64.not_lt.mpr behind (wanted.mp (mem_of_mem_take mem))
        rw [if_pos behind, if_neg out, if_pos]
        split_ifs with more
        · rw [Option.all_eq_true]
          rintro next is
          obtain ⟨final, last, rfl⟩ := Option.map_eq_some_iff.mp is
          have ahead := (mem_matched.mp (mem_of_mem_take (mem_of_getLast? last))).2.1
          exact decide_eq_true (UInt64.le_trans behind (UInt64.le_of_lt ahead))
        · rfl
      · have mem := wanted.mpr (UInt64.not_le.mp behind)
        rw [if_neg behind, Nat.zero_add]
        congr 1
        split_ifs with more
        · have some : ((inbox.state.matched filter after).take limit) ≠ [] := by
            rw [Ne, take_eq_nil_iff]
            rintro (none | none)
            · exact Nat.ne_of_gt positive none
            · rw [none] at mem
              cases mem
          rw [List.getLast?_eq_some_getLast some, Option.map_some, Option.all_some,
            decide_eq_true_eq, eq_iff_iff]
          exact (le_getLast_iff sequenced (List.getLast?_eq_some_getLast some) mem).symm
        · rw [take_of_length_le (Nat.not_lt.mp more)]
          simpa using mem

/-- A call keeps the number of a command that is there before and after. -/
theorem Tracks.call (tracks : Tracks key number listing)
    (followed : FollowedWorld config listing.inbox) (present : Present filter key listing) {call}
    (keeps : KeepsNumbers listing.inbox call) :
    Tracks key number (listStep config filter listing (.call call)) := by
  obtain ⟨inbox, entry, isOpen, found, -⟩ := present
  refine ⟨fun after stored stepped held => ?_, tracks.counted⟩
  have numbered := tracks.numbered inbox entry isOpen found
  simp only [listStep, isOpen] at stepped keeps
  obtain ⟨-, growth⟩ := (followed inbox isOpen).1.step keeps stepped
  cases growth with
  | stays stays =>
    obtain ⟨entry', found', -, same⟩ := stays.entries key stored held
    rw [← same, ← numbered, Option.some.inj (found'.symm.trans found)]
  | grows command recorded room alike =>
    obtain ⟨fresh, -⟩ := checkRecordable_eq_none recorded
    have other : key ≠ command.key := by
      rintro rfl
      exact fresh (mem_of_lookup found)
    rw [alike.entries] at held
    simp only [insertRecorded, lookup_insert_eq, if_neg other] at held
    rw [← numbered, Option.some.inj (held.symm.trans found)]

/-- Over a whole walk, a command that is there all along is followed. -/
theorem Tracks.walk {walk} (tracks : Tracks key number listing)
    (followed : FollowedWorld config listing.inbox)
    (keeps : AllSteps (listStep config filter) KeepsListed listing walk)
    (present : Always (listStep config filter) (Present filter key) listing walk) :
    Tracks key number (run (listStep config filter) listing walk) := by
  induction walk generalizing listing with
  | nil => exact tracks
  | cons action rest ih =>
    obtain ⟨here, later⟩ := always_cons.mp present
    refine ih ?_ (followed.listStep keeps.1) keeps.2 later
    cases action with
    | call call => exact tracks.call followed here keeps.1
    | page limit positive => exact tracks.page followed here

/-- A listing at its first page. -/
def Listing.start (inbox : Option FileCommandInbox) : Listing where
  inbox := inbox
  cursor := some 0
  returned := []

theorem Tracks.start {inbox : FileCommandInbox} {entry} (sequenced : inbox.state.Sequenced)
    (found : inbox.state.entries.lookup key = some entry) :
    Tracks key entry.sequence (Listing.start (some inbox)) := by
  constructor
  · rintro _ stored ⟨⟩ held
    rw [Option.some.inj (held.symm.trans found)]
  · have ahead := UInt64.not_le.mpr (sequenced.positive key entry found)
    simp [Listing.start, ahead]

/-- Over every walk whose calls keep the numbers, the pages go on in the order of
the numbers, a command that is there and matches from the first page to the last
is returned exactly once, and no number stands for two commands. -/
theorem pages_stable (config : InboxConfig) (filter : ListFilter) (setup : List InboxCall)
    (walk : List ListAction)
    (keeps : AllSteps (callStep config) KeepsNumbers (some config.fresh)
      (setup ++ walk.filterMap ListAction.inboxCall)) :
    let first := Listing.start (run (callStep config) (some config.fresh) setup)
    let last := run (listStep config filter) first walk
    (last.returned.Pairwise fun earlier later => earlier.sequence < later.sequence) ∧
      (last.cursor = none → ∀ key,
        Always (listStep config filter) (Present filter key) first walk →
          last.returned.countP (fun summary => summary.commandId = key.commandId) = 1) ∧
      OneCommandEach config (setup ++ walk.filterMap ListAction.inboxCall) := by
  intro first last
  obtain ⟨keepsSetup, keepsWalk⟩ := allSteps_append.mp keeps
  have followed : FollowedWorld config first.inbox :=
    run_of_allSteps (fun _ _ => FollowedWorld.step) (followedWorld_fresh config) keepsSetup
  have keepsListed : AllSteps (listStep config filter) KeepsListed first walk :=
    keepsListed_of_calls keepsWalk
  refine ⟨?_, ?_, oneCommandEach keeps⟩
  · have keep : ∀ (listing : Listing) (action : ListAction),
        (FollowedWorld config listing.inbox ∧ Paged listing) → KeepsListed listing action →
        FollowedWorld config (listStep config filter listing action).inbox ∧
          Paged (listStep config filter listing action) := by
      rintro listing action ⟨followed, paged⟩ keeps
      refine ⟨followed.listStep keeps, ?_⟩
      cases action with
      | call call => exact ⟨paged.increasing, paged.behind⟩
      | page limit positive => exact paged.page followed
    have start : Paged first := ⟨List.Pairwise.nil, fun _ _ _ mem => nomatch mem⟩
    exact (run_of_allSteps keep ⟨followed, start⟩ keepsListed).2.increasing
  · intro done key present
    obtain ⟨inbox, entry, isOpen, found, -⟩ := present [] walk rfl
    have start : Tracks key entry.sequence first := by
      have opened : first = Listing.start (some inbox) := congrArg Listing.start isOpen
      rw [opened]
      exact .start (followed inbox isOpen).2 found
    have tracked := (start.walk followed keepsListed present).counted
    rw [done] at tracked
    exact tracked

/-- A listing of everything in the scope of the examples. -/
def wholeScope : ListFilter where
  workspaceId := "w"
  namespaceId := "n"
  agentId := none
  state := none
  maxAttempts := 8

def listedConfig : InboxConfig :=
  tornConfig

/-- Two pages of one command, with a reopen in between. -/
def twoPages : List ListAction :=
  [.page 1 Nat.one_pos, .call (.done .reopen), .page 1 Nat.one_pos]

def twoStored : List InboxCall :=
  [.done (.record (quotaOverrunCommand "B")), .done (.record (quotaOverrunCommand "C"))]

theorem pages_stable_twoStored :
    (run (listStep listedConfig wholeScope)
      (Listing.start (run (callStep listedConfig) (some listedConfig.fresh) twoStored))
      twoPages).returned.countP (fun summary => summary.commandId = "C") = 1 :=
  (pages_stable listedConfig wholeScope twoStored twoPages (by decide +kernel)).2.1
    (by decide +kernel) ⟨"w", "n", "C"⟩ (by decide +kernel)

/-- A command before the two is settled and swept. -/
def renumbered : List InboxCall :=
  [.done (.record (quotaOverrunCommand "A")),
    .done (.claim ⟨"a", 1⟩ (fun _ _ => true) ⟨1, 8⟩ 10 (Scan.stored _ _)),
    .done (.acknowledge ⟨"a", 1⟩ ⟨"w", "n", "A"⟩ 1 10)] ++ twoStored ++
    [.done (.maintain 20 5 8 (Scan.stored _ _))]

theorem designates_of_lookup {world : Option FileCommandInbox} (key : InboxKey) {command}
    (found : ((world.bind (·.state.entries.lookup key)).map fun entry =>
      (entry.sequence, entry.command)) = some (number, command)) :
    Designates world number command := by
  obtain ⟨entry, held, same⟩ := Option.map_eq_some_iff.mp found
  obtain ⟨inbox, is, held⟩ := Option.bind_eq_some_iff.mp held
  obtain ⟨rfl, rfl⟩ := Prod.mk.inj same
  exact ⟨inbox, key, entry, is, held, rfl, rfl⟩

/-- The reopen moves the second command behind the cursor: it is there and matches
all along, and the listing ends without it. The number two stood for both. -/
theorem renumberedListing_skips :
    let first := Listing.start (run (callStep listedConfig) (some listedConfig.fresh) renumbered)
    let last := run (listStep listedConfig wholeScope) first twoPages
    Always (listStep listedConfig wholeScope) (Present wholeScope ⟨"w", "n", "C"⟩) first
        twoPages ∧
      last.cursor = none ∧ last.returned.map CommandSummary.commandId = ["B"] ∧
      Designates first.inbox 2 (quotaOverrunCommand "B") ∧
      Designates last.inbox 2 (quotaOverrunCommand "C") := by
  intro first last
  have observed : Always (listStep listedConfig wholeScope) (Present wholeScope ⟨"w", "n", "C"⟩)
        first twoPages ∧
      last.cursor = none ∧ last.returned.map CommandSummary.commandId = ["B"] ∧
      ((first.inbox.bind (·.state.entries.lookup ⟨"w", "n", "B"⟩)).map fun entry =>
        (entry.sequence, entry.command)) = some (2, quotaOverrunCommand "B") ∧
      ((last.inbox.bind (·.state.entries.lookup ⟨"w", "n", "C"⟩)).map fun entry =>
        (entry.sequence, entry.command)) = some (2, quotaOverrunCommand "C") := by
    decide +kernel
  obtain ⟨present, cursor, returned, before, after⟩ := observed
  exact ⟨present, cursor, returned, designates_of_lookup _ before, designates_of_lookup _ after⟩

end Walks

end Apex.Inbox
