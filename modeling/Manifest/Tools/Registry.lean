import Manifest.Domain.Models

/-!
# Tool registry

The ten registered tools with their owners and effect classes.

Main results:

- Theorem `getDefinition_name`: a definition is found under its own name.
- Theorem `toolDefinitions_names_nodup`: no tool is registered twice.
-/

set_option autoImplicit false

namespace Manifest

/-- The registrations of `build_tool_registry`, in order. -/
def toolDefinitions : List ToolDefinition :=
  [ ⟨"get_order", .inventory, .read, "Read one synthetic order.", true⟩,
    ⟨"check_inventory", .inventory, .read,
      "Read available stock and sourced weight.", true⟩,
    ⟨"list_available_vehicles", .dispatch, .read,
      "List available synthetic vehicles.", true⟩,
    ⟨"create_dispatch_plan", .dispatch, .reversibleWrite,
      "Create a reversible synthetic dispatch plan.", true⟩,
    ⟨"list_carrier_quotes", .carrier, .read, "List synthetic carrier quotes.", true⟩,
    ⟨"select_carrier_quote", .carrier, .reversibleWrite,
      "Select a reversible synthetic carrier quote.", true⟩,
    ⟨"prepare_freight_booking", .carrier, .reversibleWrite,
      "Prepare a reversible synthetic freight booking.", true⟩,
    ⟨"confirm_freight_booking", .carrier, .financialCommit,
      "Confirm a prepared synthetic freight booking.", true⟩,
    ⟨"cancel_freight_booking", .carrier, .reversibleWrite,
      "Cancel a prepared synthetic freight booking.", true⟩,
    ⟨"write_tracking_outbox", .customerCommunications, .externalDisclosure,
      "Write a simulated tracking notification to an in-memory outbox.", true⟩ ]

/-- `ToolRegistry.get_definition`; `none` is `UnknownToolError`. -/
def getDefinition (toolName : String) : Option ToolDefinition :=
  toolDefinitions.find? fun definition => definition.name = toolName

/-- A definition is found under its own name. -/
theorem getDefinition_name {toolName : String} {definition : ToolDefinition}
    (h : getDefinition toolName = some definition) : definition.name = toolName := by
  simpa using List.find?_some h

theorem getDefinition_mem {toolName : String} {definition : ToolDefinition}
    (h : getDefinition toolName = some definition) : definition ∈ toolDefinitions :=
  List.mem_of_find?_eq_some h

/-- Registration refuses a second tool under the same name. -/
theorem toolDefinitions_names_nodup : (toolDefinitions.map (·.name)).Nodup := by
  decide

end Manifest
