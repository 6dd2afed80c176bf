import SparkGateway.Batch.Completion
import SparkGateway.Batch.Driver
import SparkGateway.Batch.Tail
import SparkGateway.Proofs.Exchange.Composed

/-!
# The pieces of the operations

What the operations on a batch and on the resource manager are composed of: requests that send no
document, loads of pages, pauses, items, remarks, and looks at the memory.  Nothing but a failure to
reach the service is ever waited out or passed over in them, so what every piece does with a stop of
another kind, the operations do too.
-/

namespace SparkGateway

namespace Batch

open Run

variable {τ α : Type} [Timeline τ]

/-- The pieces of which the operations are composed. -/
inductive Piece : ∀ {α : Type}, Run (Page.Cache τ) τ α → Prop where
  | memory : Piece Run.memory
  | remember (m : Page.Cache τ) : Piece (Run.remember m)
  | now : Piece Run.now
  | ask (q : Request) : q.method ≠ .post → Piece (Run.ask q)
  | load (url : String) : Piece (Page.load url)
  | sleep (amount : τ) : Piece (Run.sleep amount)
  | give (item : Item) : Piece (Run.give item)
  | note (level : Level) (text : String) : Piece (Run.note level text)

/-! ## Polling and looking -/

theorem noted_plain (level : Level) (text : String) :
    Plain (Piece (τ := τ)) (Run.note level text) :=
  .piece (.note level text)

theorem seek_plain {x : Run (Page.Cache τ) τ (Option α)} (p : Polling τ) (what : String)
    (h : Plain Piece x) : Plain Piece (p.seek what x) :=
  h.seek .note .sleep p what

theorem lookUp_plain (url : String) :
    Plain (Piece (τ := τ)) (Cluster.lookUp url) := by
  refine .bind (.piece (.ask _ (by simp [Request.get]))) fun found => ?_
  cases found.ok with
  | true => exact .value _
  | false => exact .bind (noted_plain _ _) fun _ => .value _

theorem status_plain (b : Batch τ) : Plain (Piece (τ := τ)) b.status := by
  refine .bind (.ofFault _) fun url => .bind (lookUp_plain url) fun found => ?_
  cases found with
  | some found => exact .bind (.ofStop _) fun _ => .value _
  | none => exact .value _

theorem pollStatus_plain (b : Batch τ) (what : String) :
    Plain (Piece (τ := τ)) (b.pollStatus what) := by
  refine seek_plain _ _ (.bind b.status_plain fun found => ?_)
  cases found with
  | some snapshot => exact .value _
  | none => exact .value _

theorem application_plain (b : Batch τ) : Plain (Piece (τ := τ)) b.application := by
  refine seek_plain _ _ (.bind b.status_plain fun found => ?_)
  cases found with
  | some snapshot => exact .value _
  | none => exact .value _

theorem manager_plain (b : Batch τ) : Plain (Piece (τ := τ)) b.manager := by
  unfold manager
  split
  · exact .value _
  · exact .stop _

theorem isSubmitting_plain (b : Batch τ) : Plain (Piece (τ := τ)) b.isSubmitting := by
  refine .bind b.status_plain fun found => ?_
  cases found with
  | none => exact .value _
  | some snapshot =>
      dsimp only
      split
      · exact .value _
      · exact .bind (.ofFault _) fun _ => .value _

theorem giveLines_plain (lines : List String) :
    Plain (Piece (τ := τ)) (giveLines Run.give lines) := by
  induction lines with
  | nil => exact .value ()
  | cons line lines ih => exact .bind (.piece (.give _)) fun _ => ih

theorem tail_plain (b : Batch τ) : Plain (Piece (τ := τ)) (b.tail Run.give) := by
  refine .rounds 0 fun start => ?_
  have hask : Plain (Piece (τ := τ)) (b.askPage start) :=
    .bind (.ofFault _) fun url => .piece (.ask _ (by simp [Request.get]))
  have hreport : ∀ text, Plain (Piece (τ := τ)) (do
      Run.give (.line .error text)
      return Run.Round.done () : Run (Page.Cache τ) τ (Run.Round Nat Unit)) :=
    fun text => .bind (.piece (.give _)) fun _ => .value _
  have hempty : Plain (Piece (τ := τ)) (b.afterEmptyPage Run.give start) := by
    refine .bind b.isSubmitting_plain.reachable fun found => ?_
    cases found with
    | error message => exact hreport message
    | ok submitting =>
        cases submitting with
        | false => exact .value _
        | true => exact .bind (.piece (.sleep _)) fun _ => .value _
  refine .bind hask.reachable fun found => ?_
  cases found with
  | error message => exact hreport message
  | ok found =>
      dsimp only
      split
      · exact hreport _
      · refine .bind (.ofStop _) fun page => .bind (giveLines_plain _) fun _ => ?_
        split
        · exact hempty
        · exact .value _

/-! ## The resource manager -/

theorem clusterApplication_plain (c : Cluster τ) (p : Polling τ) (id : String) :
    Plain (Piece (τ := τ)) (c.application p id) := by
  refine .bind (.ofMisfit _) fun url => seek_plain _ _ (.bind (lookUp_plain url) fun found => ?_)
  cases found with
  | some found => exact .bind (.ofFault _) fun _ => .value _
  | none => exact .value _

theorem currentAttempt_plain (c : Cluster τ) (p : Polling τ) (id : String) :
    Plain (Piece (τ := τ)) (c.currentAttempt p id) := by
  refine .bind (.ofMisfit _) fun url => .bind (seek_plain _ _ ?_) fun attempts => ?_
  · refine .bind (lookUp_plain url) fun found => ?_
    cases found with
    | some found => exact .bind (.ofStop _) fun _ => .value _
    | none => exact .value _
  · split
    · exact .value _
    · exact .stop _

theorem fetch_plain (url : String) (fresh : Bool) :
    Plain (Piece (τ := τ)) (Page.fetch url fresh) := by
  have hrenew : Plain (Piece (τ := τ)) (Page.renew url) :=
    .bind (.piece (.load url)) fun page => .bind (.piece .memory) fun _ => .bind (.piece .now) fun _ =>
      .bind (.piece (.remember _)) fun _ => .value page
  cases fresh with
  | true => exact hrenew
  | false =>
      have hkept : Plain (Piece (τ := τ)) (Page.kept url) :=
        .bind (.piece .memory) fun _ => .bind (.piece .now) fun _ =>
          .bind (.piece (.remember _)) fun _ => .value _
      refine .bind hkept fun found => ?_
      cases found with
      | some page => exact .value page
      | none => exact hrenew

theorem containersOf_plain (c : Cluster τ) (rows : List Cluster.ContainerRow) :
    Plain (Piece (τ := τ)) (c.containersOf rows) := by
  induction rows with
  | nil => exact .value []
  | cons row rows ih =>
      refine .bind ?_ fun first => .bind ih fun others => .value _
      unfold Cluster.container
      split
      · exact .stop _
      · refine .bind (fetch_plain _ _).reachable fun found => ?_
        cases found with
        | error message => exact .bind (noted_plain _ _) fun _ => .value _
        | ok page =>
            dsimp only
            split
            · exact .value _
            · exact .bind (.ofMisfit _) fun _ => .bind (.piece (.give _)) fun _ => .value _

theorem clusterContainers_plain (c : Cluster τ) (p : Polling τ) (attempt : String) :
    Plain (Piece (τ := τ)) (c.containers p attempt) := by
  have hpage : Plain (Piece (τ := τ)) (c.attemptPage p attempt) := by
    refine .bind (.ofMisfit _) fun url => seek_plain _ _ (.bind (.piece (.sleep _)) fun _ => ?_)
    refine .bind (fetch_plain _ _) fun page => ?_
    split
    · exact .value _
    · exact .bind (noted_plain _ _) fun _ => .value _
  refine .bind hpage fun page => ?_
  split
  · exact .value _
  · exact containersOf_plain _ _

theorem driverHost_plain (b : Batch τ) : Plain (Piece (τ := τ)) b.driverHost := by
  refine .bind b.manager_plain fun c => .bind b.application_plain fun id => ?_
  refine .bind (clusterApplication_plain _ _ _) fun a => ?_
  split
  · exact .bind (.ofFault _) fun _ => .stop _
  · refine .bind (.ofMisfit _) fun found => ?_
    cases found with
    | some host => exact .value host
    | none => exact .bind (.ofMisfit _) fun _ => .stop _

theorem awaitCompletion_plain (b : Batch τ) : Plain (Piece (τ := τ)) b.awaitCompletion := by
  have hend : Plain (Piece (τ := τ)) b.endRound := by
    refine .bind (b.pollStatus_plain _) fun found => .bind (.ofFault _) fun state => ?_
    split
    · exact .value _
    · exact .bind (.piece (.sleep _)) fun _ => .value _
  have hlogs : ∀ c id, Plain (Piece (τ := τ)) (b.logsRound c id) := by
    intro c id
    refine .bind (clusterApplication_plain _ _ _) fun a => ?_
    split
    · exact .value _
    · exact .bind (noted_plain _ _) fun _ => .bind (.piece (.sleep _)) fun _ => .value _
  refine .bind (.rounds () fun _ => hend) fun found => .bind (.ofFault _) fun _ =>
    .bind (noted_plain _ _) fun _ => ?_
  split
  · exact .value _
  · exact .bind b.manager_plain fun c => .bind (.rounds () fun _ => hlogs c _) fun _ => .value _

end Batch

end SparkGateway
