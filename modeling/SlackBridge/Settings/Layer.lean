import SlackBridge.Settings.Basic

/-!
Layers: what one source says about the settings.

A layer says something about each setting or nothing. Layers lie on top of each other, and each
setting has the value of the highest layer that says anything about it.
-/

namespace SlackBridge.Settings

/-- What one source says. It may say that a channel, a proxy or an endpoint is unset. -/
structure Layer where
  token : Option Slack.Secret := none
  signingSecret : Option Slack.Secret := none
  channel : Option (Option String) := none
  proxy : Option (Option String) := none
  retryReasonHeader : Option String := none
  retryNumberHeader : Option String := none
  ignoredRetryReasons : Option (List String) := none
  useThreads : Option Bool := none
  granularity : Option Dialogue.Granularity := none
  apiBaseUrl : Option String := none
  maxRequestAgeSecs : Option Nat := none
  endpointUrl : Option (Option String) := none
  timeoutSecs : Option Nat := none
  bindAddress : Option String := none
  port : Option Nat := none
  gracefulShutdownSecs : Option Nat := none
  logLevel : Option String := none
  logFormat : Option LogFormat := none
deriving DecidableEq, Repr

namespace Layer

/-- The settings with this layer on top of them. -/
def onto (l : Layer) (s : Settings) : Settings where
  slack := {
    token := l.token.getD s.slack.token
    signingSecret := l.signingSecret.getD s.slack.signingSecret
    channel := l.channel.getD s.slack.channel
    proxy := l.proxy.getD s.slack.proxy
    retryReasonHeader := l.retryReasonHeader.getD s.slack.retryReasonHeader
    retryNumberHeader := l.retryNumberHeader.getD s.slack.retryNumberHeader
    ignoredRetryReasons := l.ignoredRetryReasons.getD s.slack.ignoredRetryReasons
    useThreads := l.useThreads.getD s.slack.useThreads
    granularity := l.granularity.getD s.slack.granularity
    apiBaseUrl := l.apiBaseUrl.getD s.slack.apiBaseUrl
    maxRequestAgeSecs := l.maxRequestAgeSecs.getD s.slack.maxRequestAgeSecs }
  bot := {
    endpointUrl := l.endpointUrl.getD s.bot.endpointUrl
    timeoutSecs := l.timeoutSecs.getD s.bot.timeoutSecs }
  server := {
    bindAddress := l.bindAddress.getD s.server.bindAddress
    port := l.port.getD s.server.port
    gracefulShutdownSecs := l.gracefulShutdownSecs.getD s.server.gracefulShutdownSecs }
  log := {
    level := l.logLevel.getD s.log.level
    format := l.logFormat.getD s.log.format }

end Layer

/-- The defaults with the given layers on top of them, the highest one last. -/
def ofLayers (layers : List Layer) : Settings :=
  layers.foldl (fun s l => l.onto s) default

/-- What the command line of a program says. -/
structure Overrides where
  token : Option String := none
  signingSecret : Option String := none
  channel : Option String := none
  proxy : Option String := none
  useThreads : Option Bool := none
  granularity : Option Dialogue.Granularity := none
  endpointUrl : Option String := none
  port : Option Nat := none
  logLevel : Option String := none
deriving Repr

/-- A blank channel, proxy or endpoint means that there is none. -/
def Overrides.layer (o : Overrides) : Layer where
  token := o.token.map .mk
  signingSecret := o.signingSecret.map .mk
  channel := o.channel.map Text.trimmed?
  proxy := o.proxy.map Text.trimmed?
  useThreads := o.useThreads
  granularity := o.granularity
  endpointUrl := o.endpointUrl.map Text.trimmed?
  port := o.port
  logLevel := o.logLevel

end SlackBridge.Settings
