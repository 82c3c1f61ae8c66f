import Mempal.Foundation.Fallible
import Mempal.Cowork.Project

set_option autoImplicit false

/-! The encoding of a project's path does not tell a slash from a dash. Two projects have separate mailboxes exactly if
their paths differ in more than that. -/

namespace Mempal.Cowork

open Foundation

def AlikeChar (c d : Char) : Prop := c = d ∨ c ∈ ['/', '-'] ∧ d ∈ ['/', '-']

/-- The paths differ at most in slashes against dashes. -/
def Alike (identity identity' : String) : Prop := List.Forall₂ AlikeChar identity.toList identity'.toList

theorem dash_eq_iff {c d : Char} : dash c = dash d ↔ AlikeChar c d := by
  have hDash : ∀ e, dash e = '-' ↔ e ∈ ['/', '-'] := by
    intro e
    unfold dash
    split_ifs with hSlash <;> simp [hSlash]
  constructor
  · intro h
    unfold dash at h
    split_ifs at h with hc hd hd
    · exact .inl (hc.trans hd.symm)
    · exact .inr ⟨by simp [hc], by simp [← h]⟩
    · exact .inr ⟨by simp [h], by simp [hd]⟩
    · exact .inl h
  · rintro (rfl | ⟨hc, hd⟩)
    · rfl
    · rw [(hDash c).mpr hc, (hDash d).mpr hd]

theorem map_dash_eq_iff {cs ds : List Char} : cs.map dash = ds.map dash ↔ List.Forall₂ AlikeChar cs ds := by
  rw [← List.forall₂_eq_eq_eq, List.forall₂_map_left_iff, List.forall₂_map_right_iff]
  simp only [dash_eq_iff]

variable {encoded identity encoded' : String} {box box' : Box} {l : Location}

theorem encodeProjectIdentity_eq_ok (h : encodeProjectIdentity identity = .ok encoded) :
    encoded = String.ofList (identity.toList.map dash) := by
  unfold encodeProjectIdentity at h
  rw [ite_error_eq_ok_iff] at h
  exact (Except.ok.inj h.2).symm

theorem encoded_eq_iff {identity' : String} (h : encodeProjectIdentity identity = .ok encoded)
    (h' : encodeProjectIdentity identity' = .ok encoded') : encoded = encoded' ↔ Alike identity identity' := by
  rw [encodeProjectIdentity_eq_ok h, encodeProjectIdentity_eq_ok h', Alike, ← map_dash_eq_iff]
  constructor
  · intro hEq
    simpa using congrArg String.toList hEq
  · exact congrArg String.ofList

theorem Box.path_inj (h : box.path encoded = box'.path encoded') : encoded = encoded' := by
  cases box <;> cases box' <;> simp [path] at h
  · exact h.2
  · exact h.1

section Locations

variable {isGitRoot : String → Bool} {cwd cwd' : String} {size : InboxMessage → Nat}

theorem projectBusDir_eq_ok_iff {dir : Location} : projectBusDir isGitRoot cwd = .ok dir ↔
    ∃ encoded, encodeProjectIdentity (projectIdentity isGitRoot cwd) = .ok encoded ∧ dir = ["cowork-bus", encoded] := by
  rw [projectBusDir, bind_eq_ok_iff]
  simp only [Except.ok.injEq, eq_comm]

theorem Box.location_eq_ok (h : box.location isGitRoot cwd = .ok l) :
    ∃ encoded, encodeProjectIdentity (projectIdentity isGitRoot cwd) = .ok encoded ∧ l = box.path encoded := by
  cases box with
  | tool target =>
    obtain ⟨_, _, hRest⟩ := bind_eq_ok_iff.mp h
    obtain ⟨encoded, hEncode, hPath⟩ := bind_eq_ok_iff.mp hRest
    exact ⟨encoded, hEncode, (Except.ok.inj hPath).symm⟩
  | agent agentId =>
    obtain ⟨dir, hDir, hPath⟩ := bind_eq_ok_iff.mp (ite_error_eq_ok_iff.mp h).2
    obtain ⟨encoded, hEncode, rfl⟩ := projectBusDir_eq_ok_iff.mp hDir
    exact ⟨encoded, hEncode, (Except.ok.inj hPath).symm⟩

theorem location_ne {l' : Location} (hUnlike : ¬ Alike (projectIdentity isGitRoot cwd) (projectIdentity isGitRoot cwd'))
    (h : box.location isGitRoot cwd = .ok l) (h' : box'.location isGitRoot cwd' = .ok l') : l ≠ l' := by
  obtain ⟨encoded, hEncode, rfl⟩ := Box.location_eq_ok h
  obtain ⟨encoded', hEncode', rfl⟩ := Box.location_eq_ok h'
  intro hEq
  exact hUnlike ((encoded_eq_iff hEncode hEncode').mp (Box.path_inj hEq))

theorem locate_eq_some_iff {call : ProjectOp} :
    (mailboxes isGitRoot size).locate call = some l ↔ call.box.location isGitRoot call.cwd = .ok l := by
  cases h : call.box.location isGitRoot call.cwd <;> simp [mailboxes, h, Except.toOption]

end Locations

def InboxOp.isPush : InboxOp → Bool
  | push _ => true
  | drain => false

def ProjectOp.isFor (isGitRoot : String → Bool) (identity : String) (call : ProjectOp) : Bool :=
  projectIdentity isGitRoot call.cwd == identity

/-- Nothing is shared between the mailboxes of two projects, and no push for the second is seen by the first. -/
structure Separate (isGitRoot : String → Bool) (size : InboxMessage → Nat) (cwd cwd' : String) : Prop where
  inboxes : ∀ (box box' : Box) (l l' : Location),
    box.location isGitRoot cwd = .ok l → box'.location isGitRoot cwd' = .ok l' → l ≠ l'
  busDirs : projectBusDir isGitRoot cwd ≠ projectBusDir isGitRoot cwd'
  pushes_unseen : ∀ (world : Location → Inbox) (calls : List ProjectOp),
    ((mailboxes isGitRoot size).machine.trace world calls).filter
        (fun event => event.1.isFor isGitRoot (projectIdentity isGitRoot cwd)) =
      ((mailboxes isGitRoot size).machine.trace world (calls.filter fun call =>
          !(call.op.isPush && call.isFor isGitRoot (projectIdentity isGitRoot cwd')))).filter
        (fun event => event.1.isFor isGitRoot (projectIdentity isGitRoot cwd))

/-- Two different projects have separate mailboxes exactly if their paths do not look alike. -/
theorem separate_iff_not_alike (isGitRoot : String → Bool) (size : InboxMessage → Nat) (cwd cwd' : String)
    (dir dir' : Location) (hDir : projectBusDir isGitRoot cwd = .ok dir) (hDir' : projectBusDir isGitRoot cwd' = .ok dir')
    (hDifferent : projectIdentity isGitRoot cwd ≠ projectIdentity isGitRoot cwd') :
    Separate isGitRoot size cwd cwd' ↔ ¬ Alike (projectIdentity isGitRoot cwd) (projectIdentity isGitRoot cwd') := by
  obtain ⟨encoded, hEncode, rfl⟩ := projectBusDir_eq_ok_iff.mp hDir
  obtain ⟨encoded', hEncode', rfl⟩ := projectBusDir_eq_ok_iff.mp hDir'
  constructor
  · intro hSeparate hAlike
    apply hSeparate.busDirs
    rw [hDir, hDir', (encoded_eq_iff hEncode hEncode').mpr hAlike]
  intro hUnlike
  constructor
  · intro box box' l l' h h'
    exact location_ne hUnlike h h'
  · rw [hDir, hDir']
    intro hEq
    exact hUnlike ((encoded_eq_iff hEncode hEncode').mp (by simpa using hEq))
  · intro world calls
    -- The hidden places are the mailboxes of the second project.
    apply (mailboxes isGitRoot size).trace_filter_eq fun l => ∃ call : ProjectOp,
      projectIdentity isGitRoot call.cwd = projectIdentity isGitRoot cwd' ∧
        (mailboxes isGitRoot size).locate call = some l
    · intro call hPush l hLocate
      exact ⟨call, beq_iff_eq.mp (Bool.and_eq_true_iff.mp hPush).2, hLocate⟩
    · intro call hFor
      have hIdentity : projectIdentity isGitRoot call.cwd = projectIdentity isGitRoot cwd := beq_iff_eq.mp hFor
      constructor
      · simp [ProjectOp.isFor, hIdentity, hDifferent]
      · rintro l hLocate ⟨other, hOther, hLocate'⟩
        rw [← hIdentity, ← hOther] at hUnlike
        exact location_ne hUnlike (locate_eq_some_iff.mp hLocate) (locate_eq_some_iff.mp hLocate') rfl
    · intro l _
      rfl

def isWorkRoot (path : String) : Bool := path == "/work/app-core" || path == "/work/app/core" || path == "/work/lib"

def hello : InboxMessage := ⟨"2026-01-01T00:00:00Z", "codex", "hello", none, none⟩

def lineSize (message : InboxMessage) : Nat := message.content.utf8ByteSize

theorem app_and_lib_separate : Separate isWorkRoot lineSize "/work/app/core/src" "/work/lib" := by
  refine (separate_iff_not_alike isWorkRoot lineSize "/work/app/core/src" "/work/lib" ["cowork-bus", "-work-app-core"]
    ["cowork-bus", "-work-lib"] ?_ ?_ ?_).mpr ?_
  · decide +kernel
  · decide +kernel
  · decide +kernel
  · intro hAlike
    exact absurd hAlike.length_eq (by decide +kernel)

/-- A message for one project is drained by the other. -/
theorem hello_drained_by_other_project :
    projectIdentity isWorkRoot "/work/app-core" ≠ projectIdentity isWorkRoot "/work/app/core" ∧
      projectBusDir isWorkRoot "/work/app-core" = projectBusDir isWorkRoot "/work/app/core" ∧
      inboxPath isWorkRoot .claude "/work/app-core" = inboxPath isWorkRoot .claude "/work/app/core" ∧
      ((mailboxes isWorkRoot lineSize).machine.trace (fun _ => .empty)
          [⟨"/work/app-core", .tool .claude, .push hello, true⟩, ⟨"/work/app/core", .tool .claude, .drain, true⟩]).map
        Prod.snd =
        [some (some (.pushed ⟨0, hello⟩ 6)), some (some (.drained [⟨0, hello⟩]))] := by
  decide +kernel

end Mempal.Cowork
