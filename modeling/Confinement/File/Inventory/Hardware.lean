import Confinement.File.Inventory.Batch

/-!
The parts of a machine as a system shows them: devices that can be opened, and the directory that
tells what there is, how it is ordered and how it is driven.
-/

namespace Confinement.File.Inventory

private def deviceBatches : List Batch :=
  [⟨"/dev", .systemDirectory 0o755, ["net"]⟩,
    ⟨"/dev", .device .null 0o666, ["null ptmx"]⟩,
    ⟨"/dev", .device .zero 0o666, ["random urandom zero"]⟩,
    ⟨"/dev", .device .full 0o666, ["full"]⟩,
    ⟨"/dev", .device .terminal 0o666, ["tty"]⟩,
    ⟨"/dev", .device .null 0o644, ["autofs kmsg"]⟩,
    ⟨"/dev", .device .null 0o600,
      ["btrfs-control console cpu_dma_latency fuse hwrng kvm loop-control loop0 loop1 loop2",
        "loop3 loop4 loop5 loop6 loop7 ttyS0 userfaultfd vcs vcs1 vcsa vcsa1 vcsu vcsu1 vda",
        "vga_arbiter"]⟩,
    ⟨"/dev", .device .null 0o600, (List.range 64).map fun number =>
      "tty" ++ String.ofList (Text.decimal number)⟩,
    ⟨"/dev/pts", .device .null 0, ["ptmx"]⟩]

/-- Devices, and names for the streams of whoever uses them. -/
def devices : List (Bytes × Node) :=
  deviceBatches.flatMap Batch.files ++
  linksIn "/dev"
    [("fd", "/proc/self/fd"), ("stdin", "/proc/self/fd/0"), ("stdout", "/proc/self/fd/1"),
      ("stderr", "/proc/self/fd/2")]

private def hardwareDirectories : List Batch :=
  [⟨"/sys", .systemDirectory 0o755,
      ["block bus class dev devices firmware fs kernel module power"]⟩,
    ⟨"/sys/bus", .systemDirectory 0o755,
      ["acpi clockevents clocksource container cpu event_source memory node pci platform pnp",
        "serial virtio workqueue"]⟩,
    ⟨"/sys/bus/cpu", .systemDirectory 0o755, ["devices drivers"]⟩,
    ⟨"/sys/bus/platform", .systemDirectory 0o755, ["devices drivers"]⟩,
    ⟨"/sys/class", .systemDirectory 0o755,
      ["bdi block bsg cpuid dma firmware input iommu mem misc net pci_bus power_supply pps ptp",
        "thermal tty vc vtconsole watchdog"]⟩,
    ⟨"/sys/dev", .systemDirectory 0o755, ["block char"]⟩,
    ⟨"/sys/devices", .systemDirectory 0o755,
      ["LNXSYSTM:00 breakpoint msr pci0000:00 platform pnp0 software system tracepoint uprobe",
        "virtual"]⟩,
    ⟨"/sys/devices/system", .systemDirectory 0o755,
      ["clockevents clocksource container cpu memory node"]⟩,
    ⟨"/sys/devices/system/cpu", .systemDirectory 0o755,
      ["cpu0 cpufreq cpuidle hotplug power smt vulnerabilities"]⟩,
    ⟨"/sys/devices/system/cpu/cpu0", .systemDirectory 0o755,
      ["cache cpuidle hotplug power topology"]⟩,
    ⟨"/sys/devices/system/node", .systemDirectory 0o755, ["node0 power"]⟩,
    ⟨"/sys/devices/virtual", .systemDirectory 0o755,
      ["bdi block cpuid mem misc net tty vc vtconsole workqueue"]⟩,
    ⟨"/sys/devices/virtual/mem", .systemDirectory 0o755,
      ["full kmsg null random urandom zero"]⟩,
    ⟨"/sys/devices/virtual/net", .systemDirectory 0o755, ["lo"]⟩,
    ⟨"/sys/devices/virtual/net/lo", .systemDirectory 0o755, ["power queues statistics"]⟩,
    ⟨"/sys/devices/virtual/tty", .systemDirectory 0o755, ["console ptmx tty"]⟩,
    ⟨"/sys/firmware", .systemDirectory 0o755, ["acpi memmap"]⟩,
    ⟨"/sys/fs", .systemDirectory 0o755, ["cgroup ext4 fuse"]⟩,
    ⟨"/sys/fs", .systemDirectory 0o555, ["bpf pstore"]⟩,
    ⟨"/sys/kernel", .systemDirectory 0o755,
      ["boot_params btf cgroup iommu_groups irq mm reboot slab software_nodes"]⟩,
    ⟨"/sys/kernel", .systemDirectory 0o555, ["debug security tracing"]⟩,
    ⟨"/sys/kernel/mm", .systemDirectory 0o755,
      ["hugepages ksm numa swap transparent_hugepage"]⟩,
    ⟨"/sys/kernel/mm/transparent_hugepage", .systemDirectory 0o755, ["khugepaged"]⟩,
    ⟨"/sys/module", .systemDirectory 0o755,
      ["acpi block cpufreq cpuidle firmware_class fuse ipv6 kernel keyboard loop overlay tcp_cubic",
        "virtio_blk workqueue"]⟩]

private def hardwareReports : List Batch :=
  [⟨"/sys/kernel", .report 4096 0o444 "",
      ["address_bits cpu_byteorder fscaps hardlockup_count notes oops_count rcu_stall_count",
        "softlockup_count uevent_seqnum vmcoreinfo warn_count"]⟩,
    ⟨"/sys/kernel", .report 4096 0o644 "", ["profiling rcu_expedited rcu_normal"]⟩,
    ⟨"/sys/kernel/mm/transparent_hugepage", .report 4096 0o444 "", ["hpage_pmd_size"]⟩,
    ⟨"/sys/kernel/mm/transparent_hugepage", .report 4096 0o644 "",
      ["anon_beside_full defrag enabled shmem_enabled shrink_underused use_zero_page"]⟩,
    ⟨"/sys/kernel/cgroup", .report 4096 0o444 "", ["delegate features"]⟩,
    ⟨"/sys/kernel/reboot", .report 4096 0o644 "", ["cpu force hw_protection mode type"]⟩,
    ⟨"/sys/power", .report 4096 0o644 "", ["pm_freeze_timeout state"]⟩,
    ⟨"/sys/devices/system/cpu", .report 4096 0o444 "",
      ["enabled isolated kernel_max modalias offline online possible present"]⟩,
    ⟨"/sys/devices/system/cpu", .report 4096 0o644 "", ["uevent"]⟩,
    ⟨"/sys/devices/system/cpu/cpu0", .report 4096 0o444 "", ["cpu_capacity"]⟩,
    ⟨"/sys/devices/system/cpu/cpu0", .report 4096 0o644 "", ["uevent"]⟩,
    ⟨"/sys/devices/system/node", .report 4096 0o444 "",
      ["has_cpu has_generic_initiator has_memory has_normal_memory online possible"]⟩,
    ⟨"/sys/devices/system/node", .report 4096 0o644 "", ["uevent"]⟩,
    ⟨"/sys/devices/virtual/net/lo", .report 4096 0o444 "",
      ["addr_assign_type addr_len address broadcast carrier_changes carrier_down_count",
        "carrier_up_count dev_id dev_port dormant duplex ifindex iflink link_mode",
        "name_assign_type operstate speed testing type"]⟩,
    ⟨"/sys/devices/virtual/net/lo", .report 4096 0o644 "",
      ["carrier flags gro_flush_timeout ifalias mtu napi_defer_hard_irqs netdev_group",
        "proto_down threaded tx_queue_len uevent"]⟩,
    ⟨"/sys/bus/cpu", .report 4096 0o200 "", ["drivers_probe uevent"]⟩,
    ⟨"/sys/bus/cpu", .report 4096 0o644 "", ["drivers_autoprobe"]⟩,
    ⟨"/sys/bus/platform", .report 4096 0o200 "", ["drivers_probe uevent"]⟩,
    ⟨"/sys/bus/platform", .report 4096 0o644 "", ["drivers_autoprobe"]⟩]

private def hardwareLinks : List (Bytes × Node) :=
  linksIn "/sys/bus/cpu/devices" [("cpu0", "../../../devices/system/cpu/cpu0")] ++
  linksIn "/sys/class/mem"
    (["full", "kmsg", "null", "random", "urandom", "zero"].map fun name =>
      (name, "../../devices/virtual/mem/" ++ name)) ++
  linksIn "/sys/class/net" [("lo", "../../devices/virtual/net/lo")] ++
  linksIn "/sys/class/tty"
    (["console", "ptmx", "tty"].map fun name => (name, "../../devices/virtual/tty/" ++ name))

def hardware : List (Bytes × Node) :=
  (hardwareDirectories ++ hardwareReports).flatMap Batch.files ++ hardwareLinks

end Confinement.File.Inventory
