import Entitlement.Client

/-!
What can happen to a client, in any order. An event that does not fit the state changes nothing.
-/

namespace Entitlement

inductive ClientEvent (App : Type)
  | call (request : CallRequest) (m : Moment App)
  | resume (call : CallId) (m : Moment App)
  | take (call : CallId)
  | cancel (call : CallId)
  | ask (query : QueryId)
  | queryReply (query : QueryId) (reply : Except ClientError Grant) (now : Instant)
  | queryPanic (query : QueryId) (message : String)
  | reportReply (call : CallId) (reply : Except ClientError Unit)
  | registerReply (call : CallId) (reply : Except ClientError Unit) (now : Instant)
  | invalidate (key : CheckKey)
  | clearCache
  | registerProviders (p : MeasurementProviders App)
  | releaseSlot (guard : GuardId)
  | dropSlot (guard : GuardId)
  | readRate (now : Instant)
  | heartbeatTick (now : Instant)
  | heartbeatReply (reply : Except ClientError Unit)
  | heartbeatPanic
  | close
  | abandon

namespace Client

variable {App : Type}

def step (c : Client App) : ClientEvent App → Client App
  | .call request m => c.start request m
  | .resume i m => c.resume i m
  | .take i => c.take i
  | .cancel i => c.cancel i
  | .ask q => c.ask q
  | .queryReply q reply now => c.queryReplied q reply now
  | .queryPanic q message => c.queryPanicked q message
  | .reportReply i reply => c.reportReplied i reply
  | .registerReply i reply now => c.registerReplied i reply now
  | .invalidate key => (c.invalidate key).2
  | .clearCache => c.clearCache
  | .registerProviders p => (c.registerProviders p).toOption.getD c
  | .releaseSlot g => c.releaseSlot g
  | .dropSlot g => c.dropSlot g
  | .readRate now => (c.internalRate now).2
  | .heartbeatTick now => c.heartbeatTick now
  | .heartbeatReply reply => c.heartbeatReplied reply
  | .heartbeatPanic => c.heartbeatPanicked
  | .close => c.close
  | .abandon => c.abandon

end Client

end Entitlement
