namespace SpanTelemetry.AttributeKey

/-!
# Attribute keys

The keys of the attributes that have a meaning to the mapper: those of the semantic conventions,
those that particular instrumentations set, and those of the bridges between tracing systems.
-/

/-! ### Semantic conventions -/

abbrev httpMethod : String := "http.method"
abbrev httpUrl : String := "http.url"
abbrev httpScheme : String := "http.scheme"
abbrev httpHost : String := "http.host"
abbrev httpTarget : String := "http.target"
abbrev httpStatusCode : String := "http.status_code"
abbrev httpClientIp : String := "http.client_ip"
abbrev httpUserAgent : String := "http.user_agent"

abbrev netPeerName : String := "net.peer.name"
abbrev netPeerIp : String := "net.peer.ip"
abbrev netPeerPort : String := "net.peer.port"
abbrev peerService : String := "peer.service"

abbrev rpcSystem : String := "rpc.system"
abbrev rpcGrpcStatusCode : String := "rpc.grpc.status_code"

abbrev dbSystem : String := "db.system"
abbrev dbStatement : String := "db.statement"
abbrev dbOperation : String := "db.operation"
abbrev dbName : String := "db.name"

abbrev messagingSystem : String := "messaging.system"
abbrev messagingDestination : String := "messaging.destination"
abbrev messagingOperation : String := "messaging.operation"

abbrev enduserId : String := "enduser.id"

abbrev exceptionType : String := "exception.type"
abbrev exceptionMessage : String := "exception.message"
abbrev exceptionStacktrace : String := "exception.stacktrace"

abbrev serviceName : String := "service.name"
abbrev serviceNamespace : String := "service.namespace"
abbrev serviceInstanceId : String := "service.instance.id"

/-! ### Instrumentations -/

abbrev azureNamespace : String := "az.namespace"
abbrev peerAddress : String := "peer.address"
abbrev messageBusDestination : String := "message_bus.destination"
abbrev enqueuedTime : String := "x-opt-enqueued-time"

abbrev kafkaRecordQueueTime : String := "kafka.record.queue_time_ms"
abbrev kafkaOffset : String := "kafka.offset"

abbrev requestContext : String := "http.response.header.request_context"

/-! ### Bridges -/

/-- What the keys of the bridges begin with. -/
abbrev bridgeStart : String := "applicationinsights.internal."

abbrev bridgedOperationName : String := "applicationinsights.internal.operation_name"
abbrev bridgedLegacyParentId : String := "applicationinsights.internal.legacy_parent_id"
abbrev bridgedLegacyRootId : String := "applicationinsights.internal.legacy_root_id"
abbrev bridgedSource : String := "applicationinsights.internal.source"
abbrev bridgedSessionId : String := "applicationinsights.internal.session_id"
abbrev bridgedDeviceOs : String := "applicationinsights.internal.operating_system"
abbrev bridgedDeviceOsVersion : String := "applicationinsights.internal.operating_system_version"

/-! ### Overrides -/

abbrev previewInstrumentationKey : String := "ai.preview.instrumentation_key"
abbrev previewServiceName : String := "ai.preview.service_name"
abbrev previewServiceInstanceId : String := "ai.preview.service_instance_id"
abbrev previewServiceVersion : String := "ai.preview.service_version"

end SpanTelemetry.AttributeKey
