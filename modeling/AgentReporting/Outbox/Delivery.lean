import AgentReporting.Outbox.Basic

/-! # Delivering reports

A report that cannot be written is dropped. One by one, each report is posted once
and failures are counted; in batches, a request is repeated until it succeeds or
its attempts are used up.
-/

namespace AgentReporting.Outbox

variable {σ : Type}

def noteUnencodable (report : Report) : Act σ Unit :=
  let text := s!"Failed to encode report, dropping it: [{report.title}]: "
  Act.errorBecause text Fault.foreignKey.message

/-! ## One by one -/

/-- Counts a failure, with a note when it disables the outbox. -/
def fail : Posting σ Unit := do
  let outbox ← get
  set outbox.recordFailure
  if outbox.recordFailure.disabled && !outbox.disabled then
    Act.warn (σ := σ)
      "Reports are disabled due to multiple failed attempts of sending reports to the agent."

/-- Posts a written report once. -/
def postReport (post : Post σ) (route : String) (report : Report) (body : String) :
    Posting σ (Except Fault Unit) := do
  match ← (post route body).result with
  | .error fault =>
    if fault.isTransfer || fault.isValueFault then
      Act.error (σ := σ) s!"Failed to submit report: [{report.title}]: {fault.shown}"
      fail
      return .ok ()
    else return .error fault
  | .ok status =>
    if isSuccessStatus status then modify recordSuccess
    else
      Act.error (σ := σ)
        s!"Agent responded with an unexpected status {status} to report: [{report.title}]"
      fail
    return .ok ()

def deliver (post : Post σ) (parcel : Parcel) : Posting σ (Except Fault Unit) := do
  match parcel with
  | .wake =>
    if (← get).running then Act.error (σ := σ) "Empty report was submitted to the queue!"
    return .ok ()
  | .report route report =>
    match report.encode? with
    | none =>
      noteUnencodable (σ := σ) report
      return .ok ()
    | some body => postReport post route report body

/-! ## In batches -/

/-- The reports of a batch that can be written; the others are dropped. -/
def writable : List Report → Act σ (List Value)
  | [] => return []
  | report :: rest => do
    if Json.encodable report.toValue then return report.toValue :: (← writable rest)
    noteUnencodable report
    writable rest

/-- Posts a batch of `count` reports up to `attempts` times; the answer says whether it arrived. -/
def postBatch (post : Post σ) (route body : String) (count : Nat) : Nat → Act σ (Except Fault Bool)
  | 0 => return .ok false
  | attempts + 1 => do
    match ← (post route body).result with
    | .error fault =>
      if fault.isTransfer then
        Act.error s!"Failed to submit {count} reports: {fault.shown}"
        postBatch post route body count attempts
      else return .error fault
    | .ok status =>
      if isSuccessStatus status then return .ok true
      Act.warn s!"Agent responded with an unexpected status {status} to send {count} reports"
      if attempts ≠ 0 then
        Act.info (s!"Attempt to send {count} reports again to the Agent. " ++
          s!"{attempts} more attempts are left.")
      postBatch post route body count attempts

def batchFailure (attempts : Int) (count : Nat) : Fault :=
  let message := s!"All {attempts} attempts to send {count} reports have failed"
  .kit (.failedReport message attempts count)

def deliverBatch (post : Post σ) (route : String) (maxAttempts : Int) (reports : List Report) :
    Act σ (Except Fault Unit) := do
  let payloads ← writable reports
  if payloads.isEmpty then return .ok ()
  let body := String.ofList (Json.text (.list payloads))
  match ← postBatch post route body reports.length maxAttempts.toNat with
  | .error fault => return .error fault
  | .ok true => return .ok ()
  | .ok false => return .error (batchFailure maxAttempts reports.length)

/-! ## The next parcels -/

/-- Takes what is next and delivers it; an empty outbox has nothing to take. -/
def handle (post : Post σ) : Posting σ (Except Fault Unit) := do
  let outbox ← get
  match outbox.mode, outbox.parcels with
  | _, [] => return .ok ()
  | .single, parcel :: rest =>
    set { outbox with parcels := rest }
    deliver post parcel
  | .batch route maxSize maxAttempts, parcel :: rest =>
    let extra := maxSize.toNat - 1
    set { outbox with parcels := rest.drop extra }
    deliverBatch (σ := σ) post route maxAttempts ((parcel :: rest.take extra).filterMap (·.report?))

end AgentReporting.Outbox
