namespace NullContract.CharName

def abugidasNames : String :=
    ":800aSAMARITAN_LETTER_ALAFcBITcGAMANcDALATcIYcBAAcZENcITcTITcYUTcKAAFcLABATcMIMcNUNcSINGAATcINcFIcTSAADIYcQUF
    cRISHcSHANcTAAFbMARK_INcIN-ALAFcOCCLUSIONcDAGESHbMODIFIER_LETTER_EPENTHETIC_YUTbMARK_EPENTHETIC_YUT
    bVOWEL_SIGN_LONG_EdEdOVERLONG_AAdLONG_AAdAAdOVERLONG_AdLONG_AdAbMODIFIER_LETTER_SHORT_AbVOWEL_SIGN_SHORT_A
    dLONG_UdUbMODIFIER_LETTER_IbVOWEL_SIGN_LONG_IdIdOdSUKUNbMARK_NEQUDAA:830bPUNCTUATION_NEQUDAAcAFSAAQcANGEDcBAU
    cATMAAUcSHIYYAALAAbABBREVIATION_MARKbPUNCTUATION_MELODIC_QITSAcZIQAAcQITSAcZAEFcTURUcARKAANUcSOF_MASHFAATcANNAAU
    :840aMANDAIC_LETTER_HALQAcABcAGcADcAHcUSHENNAcAZcITcATTcAKSAcAKcALcAMcANcAScINcAPcASZcAQcARcASHcATcDUSHENNAcKAD
    cAINbAFFRICATION_MARKbVOCALIZATION_MARKbGEMINATION_MARK:85EbPUNCTUATION:860aSYRIAC_LETTER_MALAYALAM_NGAdJAdNYA
    dTTAdNNAdNNNAdBHAdRAdLLAdLLLAdSSA:870aARABIC_LETTER_ALEF_WITH_ATTACHED_FATHAfTOP_RIGHT_FATHAeRIGHT_MIDDLE_STROKE
    eLEFT_MIDDLE_STROKEeATTACHED_KASRAfBOTTOM_RIGHT_KASRAfROUND_DOT_ABOVEfRIGHT_ROUND_DOTfLEFT_ROUND_DOT
    fROUND_DOT_BELOWeDOT_ABOVEeATTACHED_TOP_RIGHT_FATHA_AND_DOT_ABOVEeRIGHT_MIDDLE_STROKE_AND_DOT_ABOVE
    eATTACHED_BOTTOM_RIGHT_KASRA_AND_DOT_ABOVEfTOP_RIGHT_FATHA_AND_LEFT_RINGeRIGHT_MIDDLE_STROKE_AND_LEFT_RING
    eATTACHED_BOTTOM_RIGHT_KASRA_AND_LEFT_RINGfRIGHT_HAMZAfLEFT_HAMZAbTATWEEL_WITH_OVERSTRUCK_HAMZAeWAW
    dTWO_DOTS_BELOWbLETTER_THIN_YEHbBASELINE_ROUND_DOTbRAISED_ROUND_DOTbLETTER_NOON_WITH_INVERTED_SMALL_V
    cHAH_WITH_INVERTED_SMALL_V_BELOWcTAH_WITH_DOT_BELOWeTHREE_DOTS_BELOWcKEHEH_WITH_TWO_DOTS_VERTICALLY_BELOW
    bVERTICAL_TAIL:890bPOUND_MARK_ABOVEbPIASTRE_MARK_ABOVE:898bSMALL_HIGH_WORD_AL-JUZcLOW_WORD_ISHMAAMeIMAALA
    eTASHEELbMADDA_WAAJIBbSUPERSCRIPT_ALEF_MOKHASSASbDOUBLED_MADDAbHALF_MADDA_OVER_MADDA
    bLETTER_BEH_WITH_SMALL_V_BELOWeHAMZA_ABOVEcJEEM_WITH_TWO_DOTS_ABOVEcTAH_WITH_TWO_DOTS_ABOVE
    cFEH_WITH_DOT_BELOW_AND_THREE_DOTS_ABOVEcQAF_WITH_DOT_BELOWcLAM_WITH_DOUBLE_BARcMEEM_WITH_THREE_DOTS_ABOVE
    cYEH_WITH_TWO_DOTS_BELOW_AND_HAMZA_ABOVEiDOT_ABOVEcREH_WITH_LOOPcWAW_WITH_DOT_WITHINcROHINGYA_YEHcLOW_ALEF
    cDAL_WITH_THREE_DOTS_BELOWcSAD_WITH_THREE_DOTS_BELOWcGAF_WITH_INVERTED_STROKEcSTRAIGHT_WAW
    cZAIN_WITH_INVERTED_V_ABOVEcAIN_WITH_THREE_DOTS_BELOWcKAF_WITH_DOT_BELOWcQAF_WITH_DOT_BELOW_AND_NO_DOTS_ABOVE
    cBEH_WITH_SMALL_MEEM_ABOVEcPEH_WITH_SMALL_MEEM_ABOVEcTEH_WITH_SMALL_TEH_ABOVEcREH_WITH_SMALL_NOON_ABOVE
    cYEH_WITH_TWO_DOTS_BELOW_AND_SMALL_NOON_ABOVEcAFRICAN_FEHdQAFdNOONcPEH_WITH_SMALL_VcTEH_WITH_SMALL_V
    cTTEH_WITH_SMALL_VcTCHEH_WITH_SMALL_VcKEHEH_WITH_SMALL_VcGHAIN_WITH_THREE_DOTS_ABOVE
    cAFRICAN_QAF_WITH_THREE_DOTS_ABOVEcJEEM_WITH_THREE_DOTS_ABOVEgBELOWcLAM_WITH_SMALL_ARABIC_LETTER_TAH_ABOVEcGRAF
    bSMALL_FARSI_YEHcHIGH_FARSI_YEHdYEH_BARREE_WITH_TWO_DOTS_BELOWdWORD_SAHdZAHbLARGE_ROUND_DOT_ABOVEeBELOW
    bSUKUN_BELOWbLARGE_CIRCLE_BELOWcROUND_DOT_INSIDE_CIRCLE_BELOWbSMALL_LOW_WAWcHIGH_WORD_AR-RUBdSADdAINdQAF
    dNOON_WITH_KASRAcLOW_NOON_WITH_KASRAcHIGH_WORD_ATH-THALATHAeAS-SAJDAeAN-NISFeSAKTAeQIFeWAQFAdFOOTNOTE_MARKER
    dSIGN_SAFHAbDISPUTED_END_OF_AYAHbTURNED_DAMMA_BELOWbCURLY_FATHAcDAMMAcKASRAcFATHATANcDAMMATANcKASRATAN
    bTONE_ONE_DOT_ABOVEcTWO_DOTS_ABOVEcLOOP_ABOVEcONE_DOT_BELOWcTWO_DOTS_BELOWcLOOP_BELOWbOPEN_FATHATANcDAMMATAN
    cKASRATANbSMALL_HIGH_WAWbFATHA_WITH_RINGdDOT_ABOVEbKASRA_WITH_DOT_BELOWbLEFT_ARROWHEAD_ABOVE
    bRIGHT_ARROWHEAD_ABOVEbLEFT_ARROWHEAD_BELOWbRIGHT_ARROWHEAD_BELOWbDOUBLE_RIGHT_ARROWHEAD_ABOVEfWITH_DOT
    bRIGHT_ARROWHEAD_ABOVE_WITH_DOTbDAMMA_WITH_DOTbMARK_SIDEWAYS_NOON_GHUNNAaDEVANAGARI_SIGN_INVERTED_CANDRABINDU
    cCANDRABINDUcANUSVARAcVISARGAbLETTER_SHORT_AcAcAAcIcIIcUcUUcVOCALIC_RdLcCANDRA_EcSHORT_EcEcAIcCANDRA_OcSHORT_OcO
    cAUcKAcKHAcGAcGHAcNGAcCAcCHAcJAcJHAcNYAcTTAcTTHAcDDAcDDHAcNNAcTAcTHAcDAcDHAcNAcNNNAcPAcPHAcBAcBHAcMAcYAcRAcRRA
    cLAcLLAcLLLAcVAcSHAcSSAcSAcHAbVOWEL_SIGN_OEdOOEbSIGN_NUKTAcAVAGRAHAbVOWEL_SIGN_AAdIdIIdUdUUdVOCALIC_ReRR
    dCANDRA_EdSHORT_EdEdAIdCANDRA_OdSHORT_OdOdAUbSIGN_VIRAMAbVOWEL_SIGN_PRISHTHAMATRA_EdAWbOMbSTRESS_SIGN_UDATTA
    dANUDATTAbGRAVE_ACCENTbACUTE_ACCENTbVOWEL_SIGN_CANDRA_LONG_EdUEdUUEbLETTER_QAcKHHAcGHHAcZAcDDDHAcRHAcFAcYYA
    cVOCALIC_RRdLLbVOWEL_SIGN_VOCALIC_LeLLbDANDAbDOUBLE_DANDAbDIGIT_ZEROcONEcTWOcTHREEcFOURcFIVEcSIXcSEVENcEIGHT
    cNINEbABBREVIATION_SIGNbSIGN_HIGH_SPACING_DOTbLETTER_CANDRA_AcOEcOOEcAWcUEcUUEcMARWARI_DDAcZHAcHEAVY_YAcGGAcJJA
    cGLOTTAL_STOPcDDDAcBBAaBENGALI_ANJIbSIGN_CANDRABINDUcANUSVARAcVISARGA:985bLETTER_AcAAcIcIIcUcUUcVOCALIC_RdL
    :98FcEcAI:993cOcAUcKAcKHAcGAcGHAcNGAcCAcCHAcJAcJHAcNYAcTTAcTTHAcDDAcDDHAcNNAcTAcTHAcDAcDHAcNA:9AAcPAcPHAcBAcBHA
    cMAcYAcRA:9B2cLA:9B6cSHAcSSAcSAcHA:9BCbSIGN_NUKTAcAVAGRAHAbVOWEL_SIGN_AAdIdIIdUdUUdVOCALIC_ReRR:9C7dEdAI:9CBdO
    dAUbSIGN_VIRAMAbLETTER_KHANDA_TA:9D7bAU_LENGTH_MARK:9DCbLETTER_RRAcRHA:9DFcYYAcVOCALIC_RRdLL
    bVOWEL_SIGN_VOCALIC_LeLL:9E6bDIGIT_ZEROcONEcTWOcTHREEcFOURcFIVEcSIXcSEVENcEIGHTcNINE
    bLETTER_RA_WITH_MIDDLE_DIAGONALeLOWER_DIAGONALbRUPEE_MARKcSIGNbCURRENCY_NUMERATOR_ONEdTWOdTHREEdFOUR
    dONE_LESS_THAN_THE_DENOMINATORcDENOMINATOR_SIXTEENbISSHARbGANDA_MARKbLETTER_VEDIC_ANUSVARAbABBREVIATION_SIGN
    bSANDHI_MARK:A01aGURMUKHI_SIGN_ADAK_BINDIcBINDIcVISARGA:A05bLETTER_AcAAcIcIIcUcUU:A0FcEEcAI:A13cOOcAUcKAcKHAcGA
    cGHAcNGAcCAcCHAcJAcJHAcNYAcTTAcTTHAcDDAcDDHAcNNAcTAcTHAcDAcDHAcNA:A2AcPAcPHAcBAcBHAcMAcYAcRA:A32cLAcLLA:A35cVA
    cSHA:A38cSAcHA:A3CbSIGN_NUKTA:A3EbVOWEL_SIGN_AAdIdIIdUdUU:A47dEEdAI:A4BdOOdAUbSIGN_VIRAMA:A51cUDAAT
    :A59bLETTER_KHHAcGHHAcZAcRRA:A5EcFA:A66bDIGIT_ZEROcONEcTWOcTHREEcFOURcFIVEcSIXcSEVENcEIGHTcNINEbTIPPIbADDAKbIRI
    bURAbEK_ONKARbSIGN_YAKASHbABBREVIATION_SIGN:A81aGUJARATI_SIGN_CANDRABINDUcANUSVARAcVISARGA:A85bLETTER_AcAAcIcII
    cUcUUcVOCALIC_RdLbVOWEL_CANDRA_E:A8FbLETTER_EcAIbVOWEL_CANDRA_O:A93bLETTER_OcAUcKAcKHAcGAcGHAcNGAcCAcCHAcJAcJHA
    cNYAcTTAcTTHAcDDAcDDHAcNNAcTAcTHAcDAcDHAcNA:AAAcPAcPHAcBAcBHAcMAcYAcRA:AB2cLAcLLA:AB5cVAcSHAcSSAcSAcHA
    :ABCbSIGN_NUKTAcAVAGRAHAbVOWEL_SIGN_AAdIdIIdUdUUdVOCALIC_ReRRdCANDRA_E:AC7dEdAIdCANDRA_O:ACBdOdAUbSIGN_VIRAMA
    :AD0bOM:AE0bLETTER_VOCALIC_RRdLLbVOWEL_SIGN_VOCALIC_LeLL:AE6bDIGIT_ZEROcONEcTWOcTHREEcFOURcFIVEcSIXcSEVENcEIGHT
    cNINEbABBREVIATION_SIGNbRUPEE_SIGN:AF9bLETTER_ZHAbSIGN_SUKUNcSHADDAcMADDAHcTHREE-DOT_NUKTA_ABOVE
    cCIRCLE_NUKTA_ABOVEcTWO-CIRCLE_NUKTA_ABOVE:B01aORIYA_SIGN_CANDRABINDUcANUSVARAcVISARGA:B05bLETTER_AcAAcIcIIcUcUU
    cVOCALIC_RdL:B0FcEcAI:B13cOcAUcKAcKHAcGAcGHAcNGAcCAcCHAcJAcJHAcNYAcTTAcTTHAcDDAcDDHAcNNAcTAcTHAcDAcDHAcNA:B2AcPA
    cPHAcBAcBHAcMAcYAcRA:B32cLAcLLA:B35cVAcSHAcSSAcSAcHA:B3CbSIGN_NUKTAcAVAGRAHAbVOWEL_SIGN_AAdIdIIdUdUUdVOCALIC_R
    eRR:B47dEdAI:B4BdOdAUbSIGN_VIRAMA:B55cOVERLINEbAI_LENGTH_MARKbAU_LENGTH_MARK:B5CbLETTER_RRAcRHA:B5FcYYA
    cVOCALIC_RRdLLbVOWEL_SIGN_VOCALIC_LeLL:B66bDIGIT_ZEROcONEcTWOcTHREEcFOURcFIVEcSIXcSEVENcEIGHTcNINEbISSHAR
    bLETTER_WAbFRACTION_ONE_QUARTERdHALFcTHREE_QUARTERScONE_SIXTEENTHdEIGHTHcTHREE_SIXTEENTHS
    :B82aTAMIL_SIGN_ANUSVARAcVISARGA:B85bLETTER_AcAAcIcIIcUcUU:B8EcEcEEcAI:B92cOcOOcAUcKA:B99cNGAcCA:B9CcJA:B9EcNYA
    cTTA:BA3cNNAcTA:BA8cNAcNNNAcPA:BAEcMAcYAcRAcRRAcLAcLLAcLLLAcVAcSHAcSSAcSAcHA:BBEbVOWEL_SIGN_AAdIdIIdUdUU:BC6dE
    dEEdAI:BCAdOdOOdAUbSIGN_VIRAMA:BD0bOM:BD7bAU_LENGTH_MARK:BE6bDIGIT_ZEROcONEcTWOcTHREEcFOURcFIVEcSIXcSEVENcEIGHT
    cNINEbNUMBER_TENcONE_HUNDREDdTHOUSANDbDAY_SIGNbMONTH_SIGNbYEAR_SIGNbDEBIT_SIGNbCREDIT_SIGNbAS_ABOVE_SIGN
    bRUPEE_SIGNbNUMBER_SIGN:C00aTELUGU_SIGN_COMBINING_CANDRABINDU_ABOVEcCANDRABINDUcANUSVARAcVISARGA
    cCOMBINING_ANUSVARA_ABOVEbLETTER_AcAAcIcIIcUcUUcVOCALIC_RdL:C0EcEcEEcAI:C12cOcOOcAUcKAcKHAcGAcGHAcNGAcCAcCHAcJA
    cJHAcNYAcTTAcTTHAcDDAcDDHAcNNAcTAcTHAcDAcDHAcNA:C2AcPAcPHAcBAcBHAcMAcYAcRAcRRAcLAcLLAcLLLAcVAcSHAcSSAcSAcHA
    :C3CbSIGN_NUKTAcAVAGRAHAbVOWEL_SIGN_AAdIdIIdUdUUdVOCALIC_ReRR:C46dEdEEdAI:C4AdOdOOdAUbSIGN_VIRAMA
    :C55bLENGTH_MARKbAI_LENGTH_MARK:C58bLETTER_TSAcDZAcRRRA:C5DcNAKAARA_POLLU:C60cVOCALIC_RRdLLbVOWEL_SIGN_VOCALIC_L
    eLL:C66bDIGIT_ZEROcONEcTWOcTHREEcFOURcFIVEcSIXcSEVENcEIGHTcNINE:C77bSIGN_SIDDHAM
    bFRACTION_DIGIT_ZERO_FOR_ODD_POWERS_OF_FOURdONE_FOR_ODD_POWERS_OF_FOURdTWO_FOR_ODD_POWERS_OF_FOUR
    dTHREE_FOR_ODD_POWERS_OF_FOURdONE_FOR_EVEN_POWERS_OF_FOURdTWO_FOR_EVEN_POWERS_OF_FOUR
    dTHREE_FOR_EVEN_POWERS_OF_FOURbSIGN_TUUMUaKANNADA_SIGN_SPACING_CANDRABINDUcCANDRABINDUcANUSVARAcVISARGAcSIDDHAM
    bLETTER_AcAAcIcIIcUcUUcVOCALIC_RdL:C8EcEcEEcAI:C92cOcOOcAUcKAcKHAcGAcGHAcNGAcCAcCHAcJAcJHAcNYAcTTAcTTHAcDDAcDDHA
    cNNAcTAcTHAcDAcDHAcNA:CAAcPAcPHAcBAcBHAcMAcYAcRAcRRAcLAcLLA:CB5cVAcSHAcSSAcSAcHA:CBCbSIGN_NUKTAcAVAGRAHA
    bVOWEL_SIGN_AAdIdIIdUdUUdVOCALIC_ReRR:CC6dEdEEdAI:CCAdOdOOdAUbSIGN_VIRAMA:CD5bLENGTH_MARKbAI_LENGTH_MARK
    :CDDbLETTER_NAKAARA_POLLUcFA:CE0cVOCALIC_RRdLLbVOWEL_SIGN_VOCALIC_LeLL:CE6bDIGIT_ZEROcONEcTWOcTHREEcFOURcFIVE
    cSIXcSEVENcEIGHTcNINE:CF1bSIGN_JIHVAMULIYAcUPADHMANIYA:D00aMALAYALAM_SIGN_COMBINING_ANUSVARA_ABOVEcCANDRABINDU
    cANUSVARAcVISARGAbLETTER_VEDIC_ANUSVARAcAcAAcIcIIcUcUUcVOCALIC_RdL:D0EcEcEEcAI:D12cOcOOcAUcKAcKHAcGAcGHAcNGAcCA
    cCHAcJAcJHAcNYAcTTAcTTHAcDDAcDDHAcNNAcTAcTHAcDAcDHAcNAcNNNAcPAcPHAcBAcBHAcMAcYAcRAcRRAcLAcLLAcLLLAcVAcSHAcSSAcSA
    cHAcTTTAbSIGN_VERTICAL_BAR_VIRAMAcCIRCULAR_VIRAMAcAVAGRAHAbVOWEL_SIGN_AAdIdIIdUdUUdVOCALIC_ReRR:D46dEdEEdAI
    :D4AdOdOOdAUbSIGN_VIRAMAbLETTER_DOT_REPHbSIGN_PARA:D54bLETTER_CHILLU_MdYdLLLbAU_LENGTH_MARK
    bFRACTION_ONE_ONE-HUNDRED-AND-SIXTIETHdFORTIETHcTHREE_EIGHTIETHScONE_TWENTIETHdTENTHcTHREE_TWENTIETHScONE_FIFTH
    bLETTER_ARCHAIC_IIcVOCALIC_RRdLLbVOWEL_SIGN_VOCALIC_LeLL:D66bDIGIT_ZEROcONEcTWOcTHREEcFOURcFIVEcSIXcSEVENcEIGHT
    cNINEbNUMBER_TENcONE_HUNDREDdTHOUSANDbFRACTION_ONE_QUARTERdHALFcTHREE_QUARTERScONE_SIXTEENTHdEIGHTH
    cTHREE_SIXTEENTHSbDATE_MARKbLETTER_CHILLU_NNdNdRRdLdLLdK:D81aSINHALA_SIGN_CANDRABINDUcANUSVARAYAcVISARGAYA
    :D85bLETTER_AYANNAcAAYANNAcAEYANNAcAEEYANNAcIYANNAcIIYANNAcUYANNAcUUYANNAcIRUYANNAcIRUUYANNAcILUYANNAcILUUYANNA
    cEYANNAcEEYANNAcAIYANNAcOYANNAcOOYANNAcAUYANNA:D9AcALPAPRAANA_KAYANNAcMAHAAPRAANA_KAYANNAcALPAPRAANA_GAYANNA
    cMAHAAPRAANA_GAYANNAcKANTAJA_NAASIKYAYAcSANYAKA_GAYANNAcALPAPRAANA_CAYANNAcMAHAAPRAANA_CAYANNA
    cALPAPRAANA_JAYANNAcMAHAAPRAANA_JAYANNAcTAALUJA_NAASIKYAYAdSANYOOGA_NAAKSIKYAYAcSANYAKA_JAYANNA
    cALPAPRAANA_TTAYANNAcMAHAAPRAANA_TTAYANNAcALPAPRAANA_DDAYANNAcMAHAAPRAANA_DDAYANNAcMUURDHAJA_NAYANNA
    cSANYAKA_DDAYANNAcALPAPRAANA_TAYANNAcMAHAAPRAANA_TAYANNAcALPAPRAANA_DAYANNAcMAHAAPRAANA_DAYANNAcDANTAJA_NAYANNA
    :DB3cSANYAKA_DAYANNAcALPAPRAANA_PAYANNAcMAHAAPRAANA_PAYANNAcALPAPRAANA_BAYANNAcMAHAAPRAANA_BAYANNAcMAYANNA
    cAMBA_BAYANNAcYAYANNAcRAYANNA:DBDcDANTAJA_LAYANNA:DC0cVAYANNAcTAALUJA_SAYANNAcMUURDHAJA_SAYANNAcDANTAJA_SAYANNA
    cHAYANNAcMUURDHAJA_LAYANNAcFAYANNA:DCAbSIGN_AL-LAKUNA:DCFbVOWEL_SIGN_AELA-PILLAdKETTI_AEDA-PILLAdDIGA_AEDA-PILLA
    dKETTI_IS-PILLAdDIGA_IS-PILLAdKETTI_PAA-PILLA:DD6dDIGA_PAA-PILLA:DD8dGAETTA-PILLAdKOMBUVAdDIGA_KOMBUVA
    dKOMBU_DEKAdKOMBUVA_HAA_AELA-PILLAfDIGA_AELA-PILLAfGAYANUKITTAdGAYANUKITTA:DE6bLITH_DIGIT_ZEROdONEdTWOdTHREE
    dFOURdFIVEdSIXdSEVENdEIGHTdNINE:DF2bVOWEL_SIGN_DIGA_GAETTA-PILLAeGAYANUKITTAbPUNCTUATION_KUNDDALIYA
    :E01aTHAI_CHARACTER_KO_KAIcKHO_KHAIdKHUATdKHWAIdKHONdRAKHANGcNGO_NGUcCHO_CHANdCHINGdCHANGcSO_SOcCHO_CHOEcYO_YING
    cDO_CHADAcTO_PATAKcTHO_THANdNANGMONTHOdPHUTHAOcNO_NENcDO_DEKcTO_TAOcTHO_THUNGdTHAHANdTHONGcNO_NUcBO_BAIMAI
    cPO_PLAcPHO_PHUNGcFO_FAcPHO_PHANcFO_FANcPHO_SAMPHAOcMO_MAcYO_YAKcRO_RUAcRUcLO_LINGcLUcWO_WAENcSO_SALAdRUSIdSUA
    cHO_HIPcLO_CHULAcO_ANGcHO_NOKHUKcPAIYANNOIcSARA_AcMAI_HAN-AKATcSARA_AAdAMdIdIIdUEdUEEdUdUUcPHINTHU
    :E3FbCURRENCY_SYMBOL_BAHTbCHARACTER_SARA_EdAEdOdAI_MAIMUANeMAIMALAIcLAKKHANGYAOcMAIYAMOKcMAITAIKHUcMAI_EKdTHO
    dTRIdCHATTAWAcTHANTHAKHATcNIKHAHITcYAMAKKANcFONGMANbDIGIT_ZEROcONEcTWOcTHREEcFOURcFIVEcSIXcSEVENcEIGHTcNINE
    bCHARACTER_ANGKHANKHUcKHOMUT:E81aLAO_LETTER_KOcKHO_SUNG:E84dTAM:E86cPALI_GHAcNGOcCOcPALI_CHAcSO_TAM:E8CcPALI_JHA
    cNYOcPALI_NYAdTTAdTTHAdDDAdDDHAdNNAcDOcTOcTHO_SUNGdTAMcPALI_DHAcNOcBOcPOcPHO_SUNGcFO_TAMcPHO_TAMcFO_SUNG
    cPALI_BHAcMOcYOcLO_LING:EA5dLOOT:EA7cWOcSANSKRIT_SHAdSSAcSO_SUNGcHO_SUNGcPALI_LLAcOcHO_TAMbELLIPSISbVOWEL_SIGN_A
    dMAI_KANdAAdAMdIdIIdYdYYdUdUUbSIGN_PALI_VIRAMAbVOWEL_SIGN_MAI_KONbSEMIVOWEL_SIGN_LOdNYO:EC0bVOWEL_SIGN_EdEIdOdAY
    dAI:EC6bKO_LA:EC8bTONE_MAI_EKdTHOdTIdCATAWAbCANCELLATION_MARKbNIGGAHITA:ED0bDIGIT_ZEROcONEcTWOcTHREEcFOURcFIVE
    cSIXcSEVENcEIGHTcNINE:EDCbHO_NOcMObLETTER_KHMU_GOdNYO:F00aTIBETAN_SYLLABLE_OMbMARK_GTER_YIG_MGO_TRUNCATED_A
    f-UM_RNAM_BCAD_MAgGTER_TSHEG_MAcINITIAL_YIG_MGO_MDUN_MAcCLOSING_YIG_MGO_SGAB_MAcCARET_YIG_MGO_PHUR_SHAD_MA
    cYIG_MGO_TSHEG_SHAD_MAcSBRUL_SHADcBSKUR_YIG_MGOcBKA-_SHOG_YIG_MGOcINTERSYLLABIC_TSHEGcDELIMITER_TSHEG_BSTARcSHAD
    cNYIS_SHADcTSHEG_SHADcNYIS_TSHEG_SHADcRIN_CHEN_SPUNGS_SHADcRGYA_GRAM_SHADcCARET_-DZUD_RTAGS_ME_LONG_CAN
    cGTER_TSHEGbLOGOTYPE_SIGN_CHAD_RTAGSdLHAG_RTAGSbASTROLOGICAL_SIGN_SGRA_GCAN_-CHAR_RTAGSd-KHYUD_PAdSDONG_TSHUGS
    bSIGN_RDEL_DKAR_GCIGeGNYISeGSUMdNAG_GCIGeGNYISdDKAR_RDEL_NAGbDIGIT_ZEROcONEcTWOcTHREEcFOURcFIVEcSIXcSEVENcEIGHT
    cNINEcHALF_ONEdTWOdTHREEdFOURdFIVEdSIXdSEVENdEIGHTdNINEdZERObMARK_BSDUS_RTAGScNGAS_BZUNG_NYI_ZLA
    cCARET_-DZUD_RTAGS_BZHI_MIG_CANcNGAS_BZUNG_SGOR_RTAGScCHE_MGOcTSA_-PHRUcGUG_RTAGS_GYONeGYAScANG_KHANG_GYONeGYAS
    bSIGN_YAR_TSHEScMAR_TSHESbLETTER_KAcKHAcGAcGHAcNGAcCAcCHAcJA:F49cNYAcTTAcTTHAcDDAcDDHAcNNAcTAcTHAcDAcDHAcNAcPA
    cPHAcBAcBHAcMAcTSAcTSHAcDZAcDZHAcWAcZHAcZAc-AcYAcRAcLAcSHAcSSAcSAcHAcAcKSSAcFIXED-FORM_RAcKKAcRRA
    :F71bVOWEL_SIGN_AAdIdIIdUdUUdVOCALIC_ReRReLeLLdEdEEdOdOObSIGN_RJES_SU_NGA_ROcRNAM_BCADbVOWEL_SIGN_REVERSED_IeII
    bSIGN_NYI_ZLA_NAA_DAcSNA_LDANbMARK_HALANTAcPALUTAbSIGN_LCI_RTAGScYANG_RTAGScLCE_TSA_CANcMCHU_CANcGRU_CAN_RGYINGS
    dMED_RGYINGScINVERTED_MCHU_CANbSUBJOINED_SIGN_LCE_TSA_CANdMCHU_CANdINVERTED_MCHU_CANcLETTER_KAdKHAdGAdGHAdNGAdCA
    dCHAdJA:F99dNYAdTTAdTTHAdDDAdDDHAdNNAdTAdTHAdDAdDHAdNAdPAdPHAdBAdBHAdMAdTSAdTSHAdDZAdDZHAdWAdZHAdZAd-AdYAdRAdLA
    dSHAdSSAdSAdHAdAdKSSAdFIXED-FORM_WAeYAeRA:FBEbKU_RU_KHAeBZHI_MIG_CANbCANTILLATION_SIGN_HEAVY_BEATdLIGHT_BEAT
    dCANG_TE-UdSBUB_-CHALbSYMBOL_DRIL_BUcRDO_RJEcPADMA_GDANcRDO_RJE_RGYA_GRAMcPHUR_PAcNOR_BUeNYIS_-KHYILeGSUM_-KHYIL
    eBZHI_-KHYIL:FCEbSIGN_RDEL_NAG_RDEL_DKAReGSUMbMARK_BSKA-_SHOG_GI_MGO_RGYANcMNYAM_YIG_GI_MGO_RGYANcNYIS_TSHEG
    cINITIAL_BRDA_RNYING_YIG_MGO_MDUN_MAcCLOSING_BRDA_RNYING_YIG_MGO_SGAB_MAaRIGHT-FACING_SVASTI_SIGN
    aLEFT-FACING_SVASTI_SIGNaRIGHT-FACING_SVASTI_SIGN_WITH_DOTSaLEFT-FACING_SVASTI_SIGN_WITH_DOTS
    aTIBETAN_MARK_LEADING_MCHAN_RTAGScTRAILING_MCHAN_RTAGS:1000aMYANMAR_LETTER_KAcKHAcGAcGHAcNGAcCAcCHAcJAcJHAcNYA
    cNNYAcTTAcTTHAcDDAcDDHAcNNAcTAcTHAcDAcDHAcNAcPAcPHAcBAcBHAcMAcYAcRAcLAcWAcSAcHAcLLAcAcSHAN_AcIcIIcUcUUcEcMON_EcO
    cAUbVOWEL_SIGN_TALL_AAdAAdIdIIdUdUUdEdAIdMON_IIeOdE_ABOVEbSIGN_ANUSVARAcDOT_BELOWcVISARGAcVIRAMAcASAT
    bCONSONANT_SIGN_MEDIAL_YAeRAeWAeHAbLETTER_GREAT_SAbDIGIT_ZEROcONEcTWOcTHREEcFOURcFIVEcSIXcSEVENcEIGHTcNINE
    bSIGN_LITTLE_SECTIONcSECTIONbSYMBOL_LOCATIVEcCOMPLETEDcAFOREMENTIONEDcGENITIVEbLETTER_SHAcSSAcVOCALIC_RdRRdLdLL
    bVOWEL_SIGN_VOCALIC_ReRReLeLLbLETTER_MON_NGAdJHAdBBAdBBEbCONSONANT_SIGN_MON_MEDIAL_NAfMAfLA
    bLETTER_SGAW_KAREN_SHAbVOWEL_SIGN_SGAW_KAREN_EUbTONE_MARK_SGAW_KAREN_HATHIfKE_PHObLETTER_WESTERN_PWO_KAREN_THA
    fPWAbVOWEL_SIGN_WESTERN_PWO_KAREN_EUgUEbSIGN_WESTERN_PWO_KAREN_TONE-1fTONE-2fTONE-3fTONE-4fTONE-5
    bLETTER_EASTERN_PWO_KAREN_NNAfYWAfGHWAbVOWEL_SIGN_GEBA_KAREN_IdKAYAH_OEeUeEEbLETTER_SHAN_KAdKHAdGAdCAdZAdNYAdDA
    dNAdPHAdFAdBAdTHAdHAbCONSONANT_SIGN_SHAN_MEDIAL_WAbVOWEL_SIGN_SHAN_AAeEfABOVEeFINAL_YbSIGN_SHAN_TONE-2dTONE-3
    dTONE-5dTONE-6dCOUNCIL_TONE-2eTONE-3eEMPHATIC_TONEbLETTER_RUMAI_PALAUNG_FAbSIGN_RUMAI_PALAUNG_TONE-5
    bSHAN_DIGIT_ZEROdONEdTWOdTHREEdFOURdFIVEdSIXdSEVENdEIGHTdNINEbSIGN_KHAMTI_TONE-1dTONE-3bVOWEL_SIGN_AITON_AeAI
    bSYMBOL_SHAN_ONEdEXCLAMATIONaGEORGIAN_CAPITAL_LETTER_ANdBANdGANdDONdENdVINdZENdTANdINdKANdLASdMANdNARdONdPAR
    dZHARdRAEdSANdTARdUNdPHARdKHARdGHANdQARdSHINdCHINdCANdJILdCILdCHARdXANdJHANdHAEdHEdHIEdWEdHARdHOE:10C7dYN
    :10CDdAEN:10D0bLETTER_ANcBANcGANcDONcENcVINcZENcTANcINcKANcLAScMANcNARcONcPARcZHARcRAEcSANcTARcUNcPHARcKHARcGHAN
    cQARcSHINcCHINcCANcJILcCILcCHARcXANcJHANcHAEcHEcHIEcWEcHARcHOEcFIcYNcELIFIcTURNED_GANcAINbPARAGRAPH_SEPARATOR
    aMODIFIER_LETTER_GEORGIAN_NARaGEORGIAN_LETTER_AENcHARD_SIGNcLABIAL_SIGNaHANGUL_CHOSEONG_KIYEOKcSSANGKIYEOKcNIEUN
    cTIKEUTcSSANGTIKEUTcRIEULcMIEUMcPIEUPcSSANGPIEUPcSIOScSSANGSIOScIEUNGcCIEUCcSSANGCIEUCcCHIEUCHcKHIEUKHcTHIEUTH
    cPHIEUPHcHIEUHcNIEUN-KIYEOKcSSANGNIEUNcNIEUN-TIKEUTcNIEUN-PIEUPcTIKEUT-KIYEOKcRIEUL-NIEUNcSSANGRIEULcRIEUL-HIEUH
    cKAPYEOUNRIEULcMIEUM-PIEUPcKAPYEOUNMIEUMcPIEUP-KIYEOKcPIEUP-NIEUNcPIEUP-TIKEUTcPIEUP-SIOScPIEUP-SIOS-KIYEOK
    cPIEUP-SIOS-TIKEUTcPIEUP-SIOS-PIEUPcPIEUP-SSANGSIOScPIEUP-SIOS-CIEUCcPIEUP-CIEUCcPIEUP-CHIEUCHcPIEUP-THIEUTH
    cPIEUP-PHIEUPHcKAPYEOUNPIEUPcKAPYEOUNSSANGPIEUPcSIOS-KIYEOKcSIOS-NIEUNcSIOS-TIKEUTcSIOS-RIEULcSIOS-MIEUM
    cSIOS-PIEUPcSIOS-PIEUP-KIYEOKcSIOS-SSANGSIOScSIOS-IEUNGcSIOS-CIEUCcSIOS-CHIEUCHcSIOS-KHIEUKHcSIOS-THIEUTH
    cSIOS-PHIEUPHcSIOS-HIEUHcCHITUEUMSIOScCHITUEUMSSANGSIOScCEONGCHIEUMSIOScCEONGCHIEUMSSANGSIOScPANSIOS
    cIEUNG-KIYEOKcIEUNG-TIKEUTcIEUNG-MIEUMcIEUNG-PIEUPcIEUNG-SIOScIEUNG-PANSIOScSSANGIEUNGcIEUNG-CIEUCcIEUNG-CHIEUCH
    cIEUNG-THIEUTHcIEUNG-PHIEUPHcYESIEUNGcCIEUC-IEUNGcCHITUEUMCIEUCcCHITUEUMSSANGCIEUCcCEONGCHIEUMCIEUC
    cCEONGCHIEUMSSANGCIEUCcCHIEUCH-KHIEUKHcCHIEUCH-HIEUHcCHITUEUMCHIEUCHcCEONGCHIEUMCHIEUCHcPHIEUPH-PIEUP
    cKAPYEOUNPHIEUPHcSSANGHIEUHcYEORINHIEUHcKIYEOK-TIKEUTcNIEUN-SIOScNIEUN-CIEUCcNIEUN-HIEUHcTIKEUT-RIEULcFILLER
    bJUNGSEONG_FILLERcAcAEcYAcYAEcEOcEcYEOcYEcOcWAcWAEcOEcYOcUcWEOcWEcWIcYUcEUcYIcIcA-OcA-UcYA-OcYA-YOcEO-OcEO-U
    cEO-EUcYEO-OcYEO-UcO-EOcO-EcO-YEcO-OcO-UcYO-YAcYO-YAEcYO-YEOcYO-OcYO-IcU-AcU-AEcU-EO-EUcU-YEcU-UcYU-AcYU-EOcYU-E
    cYU-YEOcYU-YEcYU-UcYU-IcEU-UcEU-EUcYI-UcI-AcI-YAcI-OcI-UcI-EUcI-ARAEAcARAEAcARAEA-EOcARAEA-UcARAEA-IcSSANGARAEA
    cA-EUcYA-UcYEO-YAcO-YAcO-YAEbJONGSEONG_KIYEOKcSSANGKIYEOKcKIYEOK-SIOScNIEUNcNIEUN-CIEUCcNIEUN-HIEUHcTIKEUTcRIEUL
    cRIEUL-KIYEOKcRIEUL-MIEUMcRIEUL-PIEUPcRIEUL-SIOScRIEUL-THIEUTHcRIEUL-PHIEUPHcRIEUL-HIEUHcMIEUMcPIEUPcPIEUP-SIOS
    cSIOScSSANGSIOScIEUNGcCIEUCcCHIEUCHcKHIEUKHcTHIEUTHcPHIEUPHcHIEUHcKIYEOK-RIEULcKIYEOK-SIOS-KIYEOKcNIEUN-KIYEOK
    cNIEUN-TIKEUTcNIEUN-SIOScNIEUN-PANSIOScNIEUN-THIEUTHcTIKEUT-KIYEOKcTIKEUT-RIEULcRIEUL-KIYEOK-SIOScRIEUL-NIEUN
    cRIEUL-TIKEUTcRIEUL-TIKEUT-HIEUHcSSANGRIEULcRIEUL-MIEUM-KIYEOKcRIEUL-MIEUM-SIOScRIEUL-PIEUP-SIOS
    cRIEUL-PIEUP-HIEUHcRIEUL-KAPYEOUNPIEUPcRIEUL-SSANGSIOScRIEUL-PANSIOScRIEUL-KHIEUKHcRIEUL-YEORINHIEUH
    cMIEUM-KIYEOKcMIEUM-RIEULcMIEUM-PIEUPcMIEUM-SIOScMIEUM-SSANGSIOScMIEUM-PANSIOScMIEUM-CHIEUCHcMIEUM-HIEUH
    cKAPYEOUNMIEUMcPIEUP-RIEULcPIEUP-PHIEUPHcPIEUP-HIEUHcKAPYEOUNPIEUPcSIOS-KIYEOKcSIOS-TIKEUTcSIOS-RIEULcSIOS-PIEUP
    cPANSIOScIEUNG-KIYEOKcIEUNG-SSANGKIYEOKcSSANGIEUNGcIEUNG-KHIEUKHcYESIEUNGcYESIEUNG-SIOScYESIEUNG-PANSIOS
    cPHIEUPH-PIEUPcKAPYEOUNPHIEUPHcHIEUH-NIEUNcHIEUH-RIEULcHIEUH-MIEUMcHIEUH-PIEUPcYEORINHIEUHcKIYEOK-NIEUN
    cKIYEOK-PIEUPcKIYEOK-CHIEUCHcKIYEOK-KHIEUKHcKIYEOK-HIEUHcSSANGNIEUNaETHIOPIC_SYLLABLE_HAcHUcHIcHAAcHEEcHEcHOcHOA
    cLAcLUcLIcLAAcLEEcLEcLOcLWAcHHAcHHUcHHIcHHAAcHHEEcHHEcHHOcHHWAcMAcMUcMIcMAAcMEEcMEcMOcMWAcSZAcSZUcSZIcSZAAcSZEE
    cSZEcSZOcSZWAcRAcRUcRIcRAAcREEcREcROcRWAcSAcSUcSIcSAAcSEEcSEcSOcSWAcSHAcSHUcSHIcSHAAcSHEEcSHEcSHOcSHWAcQAcQUcQI
    cQAAcQEEcQEcQOcQOAcQWA:124AcQWIcQWAAcQWEEcQWE:1250cQHAcQHUcQHIcQHAAcQHEEcQHEcQHO:1258cQHWA:125AcQHWIcQHWAAcQHWEE
    cQHWE:1260cBAcBUcBIcBAAcBEEcBEcBOcBWAcVAcVUcVIcVAAcVEEcVEcVOcVWAcTAcTUcTIcTAAcTEEcTEcTOcTWAcCAcCUcCIcCAAcCEEcCE
    cCOcCWAcXAcXUcXIcXAAcXEEcXEcXOcXOAcXWA:128AcXWIcXWAAcXWEEcXWE:1290cNAcNUcNIcNAAcNEEcNEcNOcNWAcNYAcNYUcNYIcNYAA
    cNYEEcNYEcNYOcNYWAcGLOTTAL_AdUdIdAAdEEdEdOdWAcKAcKUcKIcKAAcKEEcKEcKOcKOAcKWA:12B2cKWIcKWAAcKWEEcKWE:12B8cKXAcKXU
    cKXIcKXAAcKXEEcKXEcKXO:12C0cKXWA:12C2cKXWIcKXWAAcKXWEEcKXWE:12C8cWAcWUcWIcWAAcWEEcWEcWOcWOAcPHARYNGEAL_AdUdIdAA
    dEEdEdO:12D8cZAcZUcZIcZAAcZEEcZEcZOcZWAcZHAcZHUcZHIcZHAAcZHEEcZHEcZHOcZHWAcYAcYUcYIcYAAcYEEcYEcYOcYOAcDAcDUcDI
    cDAAcDEEcDEcDOcDWAcDDAcDDUcDDIcDDAAcDDEEcDDEcDDOcDDWAcJAcJUcJIcJAAcJEEcJEcJOcJWAcGAcGUcGIcGAAcGEEcGEcGOcGOAcGWA
    :1312cGWIcGWAAcGWEEcGWE:1318cGGAcGGUcGGIcGGAAcGGEEcGGEcGGOcGGWAAcTHAcTHUcTHIcTHAAcTHEEcTHEcTHOcTHWAcCHAcCHUcCHI
    cCHAAcCHEEcCHEcCHOcCHWAcPHAcPHUcPHIcPHAAcPHEEcPHEcPHOcPHWAcTSAcTSUcTSIcTSAAcTSEEcTSEcTSOcTSWAcTZAcTZUcTZIcTZAA
    cTZEEcTZEcTZOcTZOAcFAcFUcFIcFAAcFEEcFEcFOcFWAcPAcPUcPIcPAAcPEEcPEcPOcPWAcRYAcMYAcFYA
    :135DbCOMBINING_GEMINATION_AND_VOWEL_LENGTH_MARKcVOWEL_LENGTH_MARKcGEMINATION_MARKbSECTION_MARKbWORDSPACE
    bFULL_STOPbCOMMAbSEMICOLONbCOLONbPREFACE_COLONbQUESTION_MARKbPARAGRAPH_SEPARATORbDIGIT_ONEcTWOcTHREEcFOURcFIVE
    cSIXcSEVENcEIGHTcNINEbNUMBER_TENcTWENTYcTHIRTYcFORTYcFIFTYcSIXTYcSEVENTYcEIGHTYcNINETYcHUNDREDcTEN_THOUSAND
    :1380bSYLLABLE_SEBATBEIT_MWAcMWIcMWEEcMWEcSEBATBEIT_BWAcBWIcBWEEcBWEcSEBATBEIT_FWAcFWIcFWEEcFWEcSEBATBEIT_PWA
    cPWIcPWEEcPWEbTONAL_MARK_YIZETdDERETdRIKRIKdSHORT_RIKRIKdDIFATdKENATdCHIRETdHIDETdDERET-HIDETdKURT
    :13A0aCHEROKEE_LETTER_AcEcIcOcUcVcGAcKAcGEcGIcGOcGUcGVcHAcHEcHIcHOcHUcHVcLAcLEcLIcLOcLUcLVcMAcMEcMIcMOcMUcNAcHNA
    cNAHcNEcNIcNOcNUcNVcQUAcQUEcQUIcQUOcQUUcQUVcSAcScSEcSIcSOcSUcSVcDAcTAcDEcTEcDIcTIcDOcDUcDVcDLAcTLAcTLEcTLIcTLO
    cTLUcTLVcTSAcTSEcTSIcTSOcTSUcTSVcWAcWEcWIcWOcWUcWVcYAcYEcYIcYOcYUcYVcMV:13F8bSMALL_LETTER_YEdYIdYOdYUdYVdMV
    :1400aCANADIAN_SYLLABICS_HYPHENcEcAAIcIcIIcOcOOcY-CREE_OOcCARRIER_EEdIcAcAAcWEcWEST-CREE_WEcWIcWEST-CREE_WIcWII
    cWEST-CREE_WIIcWOcWEST-CREE_WOcWOOcWEST-CREE_WOOcNASKAPI_WOOcWAcWEST-CREE_WAcWAAcWEST-CREE_WAAcNASKAPI_WAAcAI
    cY-CREE_WcGLOTTAL_STOPcFINAL_ACUTEdGRAVEdBOTTOM_HALF_RINGdTOP_HALF_RINGdRIGHT_HALF_RINGdRINGdDOUBLE_ACUTE
    eSHORT_VERTICAL_STROKESdMIDDLE_DOTdSHORT_HORIZONTAL_STROKEdPLUSdDOWN_TACKcENcINcONcANcPEcPAAIcPIcPIIcPOcPOO
    cY-CREE_POOcCARRIER_HEEdHIcPAcPAAcPWEcWEST-CREE_PWEcPWIcWEST-CREE_PWIcPWIIcWEST-CREE_PWIIcPWOcWEST-CREE_PWOcPWOO
    cWEST-CREE_PWOOcPWAcWEST-CREE_PWAcPWAAcWEST-CREE_PWAAcY-CREE_PWAAcPcWEST-CREE_PcCARRIER_HcTEcTAAIcTIcTIIcTOcTOO
    cY-CREE_TOOcCARRIER_DEEdDIcTAcTAAcTWEcWEST-CREE_TWEcTWIcWEST-CREE_TWIcTWIIcWEST-CREE_TWIIcTWOcWEST-CREE_TWOcTWOO
    cWEST-CREE_TWOOcTWAcWEST-CREE_TWAcTWAAcWEST-CREE_TWAAcNASKAPI_TWAAcTcTTEcTTIcTTOcTTAcKEcKAAIcKIcKIIcKOcKOO
    cY-CREE_KOOcKAcKAAcKWEcWEST-CREE_KWEcKWIcWEST-CREE_KWIcKWIIcWEST-CREE_KWIIcKWOcWEST-CREE_KWOcKWOOcWEST-CREE_KWOO
    cKWAcWEST-CREE_KWAcKWAAcWEST-CREE_KWAAcNASKAPI_KWAAcKcKWcSOUTH-SLAVEY_KEHdKIHdKOHdKAHcCEcCAAIcCIcCIIcCOcCOO
    cY-CREE_COOcCAcCAAcCWEcWEST-CREE_CWEcCWIcWEST-CREE_CWIcCWIIcWEST-CREE_CWIIcCWOcWEST-CREE_CWOcCWOOcWEST-CREE_CWOO
    cCWAcWEST-CREE_CWAcCWAAcWEST-CREE_CWAAcNASKAPI_CWAAcCcSAYISI_THcMEcMAAIcMIcMIIcMOcMOOcY-CREE_MOOcMAcMAAcMWE
    cWEST-CREE_MWEcMWIcWEST-CREE_MWIcMWIIcWEST-CREE_MWIIcMWOcWEST-CREE_MWOcMWOOcWEST-CREE_MWOOcMWAcWEST-CREE_MWA
    cMWAAcWEST-CREE_MWAAcNASKAPI_MWAAcMcWEST-CREE_McMHcATHAPASCAN_McSAYISI_McNEcNAAIcNIcNIIcNOcNOOcY-CREE_NOOcNAcNAA
    cNWEcWEST-CREE_NWEcNWAcWEST-CREE_NWAcNWAAcWEST-CREE_NWAAcNASKAPI_NWAAcNcCARRIER_NGcNHcLEcLAAIcLIcLIIcLOcLOO
    cY-CREE_LOOcLAcLAAcLWEcWEST-CREE_LWEcLWIcWEST-CREE_LWIcLWIIcWEST-CREE_LWIIcLWOcWEST-CREE_LWOcLWOOcWEST-CREE_LWOO
    cLWAcWEST-CREE_LWAcLWAAcWEST-CREE_LWAAcLcWEST-CREE_LcMEDIAL_LcSEcSAAIcSIcSIIcSOcSOOcY-CREE_SOOcSAcSAAcSWE
    cWEST-CREE_SWEcSWIcWEST-CREE_SWIcSWIIcWEST-CREE_SWIIcSWOcWEST-CREE_SWOcSWOOcWEST-CREE_SWOOcSWAcWEST-CREE_SWA
    cSWAAcWEST-CREE_SWAAcNASKAPI_SWAAcScATHAPASCAN_ScSWcBLACKFOOT_ScMOOSE-CREE_SKcNASKAPI_SKWdS-WdSPWAdSTWAdSKWA
    dSCWAcSHEcSHIcSHIIcSHOcSHOOcSHAcSHAAcSHWEcWEST-CREE_SHWEcSHWIcWEST-CREE_SHWIcSHWIIcWEST-CREE_SHWIIcSHWO
    cWEST-CREE_SHWOcSHWOOcWEST-CREE_SHWOOcSHWAcWEST-CREE_SHWAcSHWAAcWEST-CREE_SHWAAcSHcYEcYAAIcYIcYIIcYOcYOO
    cY-CREE_YOOcYAcYAAcYWEcWEST-CREE_YWEcYWIcWEST-CREE_YWIcYWIIcWEST-CREE_YWIIcYWOcWEST-CREE_YWOcYWOOcWEST-CREE_YWOO
    cYWAcWEST-CREE_YWAcYWAAcWEST-CREE_YWAAcNASKAPI_YWAAcYcBIBLE-CREE_YcWEST-CREE_YcSAYISI_YIcREcR-CREE_RE
    cWEST-CREE_LEcRAAIcRIcRIIcROcROOcWEST-CREE_LOcRAcRAAcWEST-CREE_LAcRWAAcWEST-CREE_RWAAcRcWEST-CREE_RcMEDIAL_RcFE
    cFAAIcFIcFIIcFOcFOOcFAcFAAcFWAAcWEST-CREE_FWAAcFcTHEcN-CREE_THEcTHIcN-CREE_THIcTHIIcN-CREE_THIIcTHOcTHOOcTHA
    cTHAAcTHWAAcWEST-CREE_THWAAcTHcTTHEcTTHIcTTHOcTTHAcTTHcTYEcTYIcTYOcTYAcNUNAVIK_HEdHIdHIIdHOdHOOdHAdHAAdH
    cNUNAVUT_HcHKcQAAIcQIcQIIcQOcQOOcQAcQAAcQcTLHEcTLHIcTLHOcTLHAcWEST-CREE_REdRIdROdRAcNGAAIcNGIcNGIIcNGOcNGOOcNGA
    cNGAAcNGcNNGcSAYISI_SHEdSHIdSHOdSHAcWOODS-CREE_THEdTHIdTHOdTHAdTHcLHIcLHIIcLHOcLHOOcLHAcLHAAcLHcTH-CREE_THEdTHI
    dTHIIdTHOdTHOOdTHAdTHAAdTHcAIVILIK_BcBLACKFOOT_EdIdOdAdWEdWIdWOdWAdNEdNIdNOdNAdKEdKIdKOdKAcSAYISI_HEdHIdHOdHA
    cCARRIER_GHUdGHOdGHEdGHEEdGHIdGHAdRUdROdREdREEdRIdRAdWUdWOdWEdWEEdWIdWAdHWUdHWOdHWEdHWEEdHWIdHWAdTHUdTHOdTHE
    dTHEEdTHIdTHAdTTUdTTOdTTEdTTEEdTTIdTTAdPUdPOdPEdPEEdPIdPAdPdGUdGOdGEdGEEdGIdGAdKHUdKHOdKHEdKHEEdKHIdKHAdKKUdKKO
    dKKEdKKEEdKKIdKKAdKKdNUdNOdNEdNEEdNIdNAdMUdMOdMEdMEEdMIdMAdYUdYOdYEdYEEdYIdYAdJUcSAYISI_JUcCARRIER_JOdJEdJEEdJI
    cSAYISI_JIcCARRIER_JAdJJUdJJOdJJEdJJEEdJJIdJJAdLUdLOdLEdLEEdLIdLAdDLUdDLOdDLEdDLEEdDLIdDLAdLHUdLHOdLHEdLHEEdLHI
    dLHAdTLHUdTLHOdTLHEdTLHEEdTLHIdTLHAdTLUdTLOdTLEdTLEEdTLIdTLAdZUdZOdZEdZEEdZIdZAdZdINITIAL_ZdDZUdDZOdDZEdDZEEdDZI
    dDZAdSUdSOdSEdSEEdSIdSAdSHUdSHOdSHEdSHEEdSHIdSHAdSHdTSUdTSOdTSEdTSEEdTSIdTSAdCHUdCHOdCHEdCHEEdCHIdCHAdTTSUdTTSO
    dTTSEdTTSEEdTTSIdTTSAcCHI_SIGNcFULL_STOPcQAIcNGAIcNNGIcNNGIIcNNGOcNNGOOcNNGAcNNGAAcWOODS-CREE_THWEEdTHWIdTHWII
    dTHWOdTHWOOdTHWAdTHWAAdFINAL_THcBLACKFOOT_WaOGHAM_SPACE_MARKbLETTER_BEITHcLUIScFEARNcSAILcNIONcUATHcDAIRcTINNE
    cCOLLcCEIRTcMUINcGORTcNGEADALcSTRAIFcRUIScAILMcONNcURcEADHADHcIODHADHcEABHADHcORcUILLEANNcIFINcEAMHANCHOLLcPEITH
    bFEATHER_MARKbREVERSED_FEATHER_MARK:16A0aRUNIC_LETTER_FEHU_FEOH_FE_FcVcURUZ_UR_UcYRcYcWcTHURISAZ_THURS_THORNcETH
    cANSUZ_AcOS_OcAC_AcAESCcLONG-BRANCH-OSS_OcSHORT-TWIG-OSS_OcOcOEcONcRAIDO_RAD_REID_RcKAUNAcCENcKAUN_KcGcENG
    cGEBO_GYFU_GcGARcWUNJO_WYNN_WcHAGLAZ_HcHAEGL_HcLONG-BRANCH-HAGALL_HcSHORT-TWIG-HAGALL_HcNAUDIZ_NYD_NAUD_N
    cSHORT-TWIG-NAUD_NcDOTTED-NcISAZ_IS_ISS_IcEcJERAN_JcGERcLONG-BRANCH-AR_AEcSHORT-TWIG-AR_AcIWAZ_EOH
    cPERTHO_PEORTH_PcALGIZ_EOLHXcSOWILO_ScSIGEL_LONG-BRANCH-SOL_ScSHORT-TWIG-SOL_ScCcZcTIWAZ_TIR_TYR_T
    cSHORT-TWIG-TYR_TcDcBERKANAN_BEORC_BJARKAN_BcSHORT-TWIG-BJARKAN_BcDOTTED-PcOPEN-PcEHWAZ_EH_EcMANNAZ_MAN_M
    cLONG-BRANCH-MADR_McSHORT-TWIG-MADR_McLAUKAZ_LAGU_LOGR_LcDOTTED-LcINGWAZcINGcDAGAZ_DAEG_DcOTHALAN_ETHEL_OcEAR
    cIORcCWEORTHcCALCcCEALCcSTANcLONG-BRANCH-YRcSHORT-TWIG-YRcICELANDIC-YRcQcXbSINGLE_PUNCTUATION
    bMULTIPLE_PUNCTUATIONbCROSS_PUNCTUATIONbARLAUG_SYMBOLbTVIMADUR_SYMBOLbBELGTHOR_SYMBOLbLETTER_KcSHcOO
    cFRANKS_CASKET_OSeISeEHeACeAESC:1700aTAGALOG_LETTER_AcIcUcKAcGAcNGAcTAcDAcNAcPAcBAcMAcYAcRAcLAcWAcSAcHA
    bVOWEL_SIGN_IdUbSIGN_VIRAMAcPAMUDPOD:171FbLETTER_ARCHAIC_RAaHANUNOO_LETTER_AcIcUcKAcGAcNGAcTAcDAcNAcPAcBAcMAcYA
    cRAcLAcWAcSAcHAbVOWEL_SIGN_IdUbSIGN_PAMUDPODaPHILIPPINE_SINGLE_PUNCTUATIONbDOUBLE_PUNCTUATION
    :1740aBUHID_LETTER_AcIcUcKAcGAcNGAcTAcDAcNAcPAcBAcMAcYAcRAcLAcWAcSAcHAbVOWEL_SIGN_IdU:1760aTAGBANWA_LETTER_AcIcU
    cKAcGAcNGAcTAcDAcNAcPAcBAcMAcYA:176EcLAcWAcSA:1772bVOWEL_SIGN_IdU:1780aKHMER_LETTER_KAcKHAcKOcKHOcNGOcCAcCHAcCO
    cCHOcNYOcDAcTTHAcDOcTTHOcNNOcTAcTHAcTOcTHOcNOcBAcPHAcPOcPHOcMOcYOcROcLOcVOcSHAcSSOcSAcHAcLAcQA
    bINDEPENDENT_VOWEL_QAQdQAAdQIdQIIdQUdQUKdQUUdQUUVdRYdRYYdLYdLYYdQEdQAIdQOO_TYPE_ONEfTWOdQAUbVOWEL_INHERENT_AQdAA
    cSIGN_AAdIdIIdYdYYdUdUUdUAdOEdYAdIEdEdAEdAIdOOdAUbSIGN_NIKAHITcREAHMUKcYUUKALEAPINTUcMUUSIKATOANcTRIISAPcBANTOC
    cROBATcTOANDAKHIATcKAKABATcAHSDAcSAMYOK_SANNYAcVIRIAMcCOENGcBATHAMASATcKHANcBARIYOOSANcCAMNUC_PII_KUUHcLEK_TOO
    cBEYYALcPHNAEK_MUANcKOOMUUTbCURRENCY_SYMBOL_RIELbSIGN_AVAKRAHASANYAcATTHACAN:17E0bDIGIT_ZEROcONEcTWOcTHREEcFOUR
    cFIVEcSIXcSEVENcEIGHTcNINE:17F0bSYMBOL_LEK_ATTAK_SONeMUOYePIIeBEIeBUONePRAMePRAM-MUOYePRAM-PIIePRAM-BEI
    ePRAM-BUON:1800aMONGOLIAN_BIRGAbELLIPSISbCOMMAbFULL_STOPbCOLONbFOUR_DOTSbTODO_SOFT_HYPHEN
    bSIBE_SYLLABLE_BOUNDARY_MARKERbMANCHU_COMMAcFULL_STOPbNIRUGUbFREE_VARIATION_SELECTOR_ONEeTWOeTHREE
    bVOWEL_SEPARATORbFREE_VARIATION_SELECTOR_FOURbDIGIT_ZEROcONEcTWOcTHREEcFOURcFIVEcSIXcSEVENcEIGHTcNINE
    :1820bLETTER_AcEcIcOcUcOEcUEcEEcNAcANGcBAcPAcQAcGAcMAcLAcSAcSHAcTAcDAcCHAcJAcYAcRAcWAcFAcKAcKHAcTSAcZAcHAAcZRA
    cLHAcZHIcCHIcTODO_LONG_VOWEL_SIGNdEdIdOdUdOEdUEdANGdBAdPAdQAdGAdMAdTAdDAdCHAdJAdTSAdYAdWAdKAdGAAdHAAdJIAdNIAdDZA
    cSIBE_EdIdIYdUEdUdANGdKAdGAdHAdPAdSHAdTAdDAdJAdFAdGAAdHAAdTSAdZAdRAAdCHAdZHAcMANCHU_IdKAdRAdFAdZHA
    cCHA_WITH_TWO_DOTS:1880cALI_GALI_ANUSVARA_ONEeVISARGA_ONEeDAMARUeUBADAMAeINVERTED_UBADAMAeBALUDAeTHREE_BALUDAeA
    eIeKAeNGAeCAeTTAeTTHAeDDAeNNAeTAeDAePAePHAeSSAeZHAeZAeAHcTODO_ALI_GALI_TAfZHAcMANCHU_ALI_GALI_GHAfNGAfCAfJHAfTTA
    fDDHAfTAfDHAfSSAfCYAfZHAfZAcALI_GALI_HALF_UfYAcMANCHU_ALI_GALI_BHAcALI_GALI_DAGALGAcMANCHU_ALI_GALI_LHA
    :18B0aCANADIAN_SYLLABICS_OYcAYcAAYcWAYcPOYcPAYcPWOYcTAYcKAYcKWAYcMAYcNOYcNAYcLAYcSOYcSAYcSHOYcSHAYcSHWOYcYOYcYAY
    cRAYcNWIcOJIBWAY_NWIcNWIIcOJIBWAY_NWIIcNWOcOJIBWAY_NWOcNWOOcOJIBWAY_NWOOcRWEEcRWIcRWIIcRWOcRWOOcRWAcOJIBWAY_PdT
    dKdCdMdNdSdSHcEASTERN_WcWESTERN_WcFINAL_SMALL_RINGdRAISED_DOTcR-CREE_RWEcWEST-CREE_LOOdLAAcTHWEcTHWAcTTHWEcTTHOO
    cTTHAAcTLHWEcTLHOOcSAYISI_SHWEdSHOOdHOOcCARRIER_GWUdDENE_GEEdGAAdGWAcSAYISI_JUUcCARRIER_JWAcBEAVER_DENE_LeR
    cCARRIER_DENTAL_S:1900aLIMBU_VOWEL-CARRIER_LETTERbLETTER_KAcKHAcGAcGHAcNGAcCAcCHAcJAcJHAcYANcTAcTHAcDAcDHAcNAcPA
    cPHAcBAcBHAcMAcYAcRAcLAcWAcSHAcSSAcSAcHAcGYANcTRA:1920bVOWEL_SIGN_AdIdUdEEdAIdOOdAUdEdObSUBJOINED_LETTER_YAdRA
    dWA:1930bSMALL_LETTER_KAdNGAdANUSVARAdTAdNAdPAdMAdRAdLAbSIGN_MUKPHRENGcKEMPHRENGcSA-I:1940cLOO
    :1944bEXCLAMATION_MARKbQUESTION_MARKbDIGIT_ZEROcONEcTWOcTHREEcFOURcFIVEcSIXcSEVENcEIGHTcNINEaTAI_LE_LETTER_KAdXA
    dNGAdTSAdSAdYAdTAdTHAdLAdPAdPHAdMAdFAdVAdHAdQAdKHAdTSHAdNAdAdIdEEdEHdUdOOdOdUEdEdAUEdAI:1970dTONE-2dTONE-3
    dTONE-4dTONE-5dTONE-6:1980aNEW_TAI_LUE_LETTER_HIGH_QAeLOW_QAeHIGH_KAfXAfNGAeLOW_KAfXAfNGAeHIGH_TSAfSAfYAeLOW_TSA
    fSAfYAeHIGH_TAfTHAfNAeLOW_TAfTHAfNAeHIGH_PAfPHAfMAeLOW_PAfPHAfMAeHIGH_FAfVAfLAeLOW_FAfVAfLAeHIGH_HAfDAfBAeLOW_HA
    fDAfBAeHIGH_KVAfXVAeLOW_KVAfXVAeHIGH_SUAeLOW_SUA:19B0dVOWEL_SIGN_VOWEL_SHORTENERfAAfIIfUfUUfEfAEfOfOAfUEfAYfAAY
    fUYfOYfOAYfUEYfIYdLETTER_FINAL_VfNGfNfMfKfDfBdTONE_MARK-1eMARK-2:19D0dDIGIT_ZEROeONEeTWOeTHREEeFOUReFIVEeSIX
    eSEVENeEIGHTeNINEdTHAM_DIGIT_ONE:19DEdSIGN_LAEeLAEVaKHMER_SYMBOL_PATHAMASATcMUOY_KOETcPII_KOETcBEI_KOET
    cBUON_KOETcPRAM_KOETcPRAM-MUOY_KOETcPRAM-PII_KOETcPRAM-BEI_KOETcPRAM-BUON_KOETcDAP_KOETcDAP-MUOY_KOET
    cDAP-PII_KOETcDAP-BEI_KOETcDAP-BUON_KOETcDAP-PRAM_KOETcTUTEYASATcMUOY_ROCcPII_ROCcBEI_ROCcBUON_ROCcPRAM_ROC
    cPRAM-MUOY_ROCcPRAM-PII_ROCcPRAM-BEI_ROCcPRAM-BUON_ROCcDAP_ROCcDAP-MUOY_ROCcDAP-PII_ROCcDAP-BEI_ROCcDAP-BUON_ROC
    cDAP-PRAM_ROCaBUGINESE_LETTER_KAcGAcNGAcNGKAcPAcBAcMAcMPAcTAcDAcNAcNRAcCAcJAcNYAcNYCAcYAcRAcLAcVAcSAcAcHA
    bVOWEL_SIGN_IdUdEdOdAE:1A1EbPALLAWAbEND_OF_SECTIONaTAI_THAM_LETTER_HIGH_KAeKHAeKXAdLOW_KAeKXAeKHAdNGAdHIGH_CA
    eCHAdLOW_CAeSAeCHAdNYAdRATAdHIGH_RATHAdDAdLOW_RATHAdRANAdHIGH_TAeTHAdLOW_TAeTHAdNAdBAdHIGH_PAePHAeFAdLOW_PAeFA
    ePHAdMAdLOW_YAdHIGH_YAdRAdRUEdLAdLUEdWAdHIGH_SHAeSSAeSAeHAdLLAdAdLOW_HAdIdIIdUdUUdEEdOOdLAEdGREAT_SA
    cCONSONANT_SIGN_MEDIAL_RAfLAeLA_TANG_LAIcSIGN_MAI_KANG_LAIcCONSONANT_SIGN_FINAL_NGAeLOW_PAeHIGH_RATHA_OR_LOW_PA
    eMAeBAeSA:1A60cSIGN_SAKOTcVOWEL_SIGN_AeMAI_SATeAAeTALL_AAeIeIIeUEeUUEeUeUUeOeOA_BELOWeOYeEeAEeOOeAIeTHAM_AI
    eOA_ABOVEcSIGN_MAI_KANGdTONE-1dTONE-2dKHUEN_TONE-3eTONE-4eTONE-5dRA_HAAMdMAI_SAMdKHUEN-LUE_KARAN
    :1A7FcCOMBINING_CRYPTOGRAMMIC_DOTcHORA_DIGIT_ZEROeONEeTWOeTHREEeFOUReFIVEeSIXeSEVENeEIGHTeNINE
    :1A90cTHAM_DIGIT_ZEROeONEeTWOeTHREEeFOUReFIVEeSIXeSEVENeEIGHTeNINE:1AA0cSIGN_WIANGdWIANGWAAKdSAWANdKEOWdHOY
    dDOKMAIdREVERSED_ROTATED_RANAdMAI_YAMOKdKAANdKAANKUUdSATKAANdSATKAANKUUdHANGdCAANG
    :1AB0aCOMBINING_DOUBLED_CIRCUMFLEX_ACCENTbDIAERESIS-RINGbINFINITYbDOWNWARDS_ARROWbTRIPLE_DOTbX-X_BELOW
    bWIGGLY_LINE_BELOWbOPEN_MARK_BELOWbDOUBLE_OPEN_MARK_BELOWbLIGHT_CENTRALIZATION_STROKE_BELOW
    bSTRONG_CENTRALIZATION_STROKE_BELOWbPARENTHESES_ABOVEbDOUBLE_PARENTHESES_ABOVEbPARENTHESES_BELOWcOVERLAY
    bLATIN_SMALL_LETTER_W_BELOWeTURNED_W_BELOWbLEFT_PARENTHESIS_ABOVE_LEFTbRIGHT_PARENTHESIS_ABOVE_RIGHT
    bLEFT_PARENTHESIS_BELOW_LEFTbRIGHT_PARENTHESIS_BELOW_RIGHTbSQUARE_BRACKETS_ABOVEbNUMBER_SIGN_ABOVE
    bINVERTED_DOUBLE_ARCH_ABOVEbPLUS_SIGN_ABOVEbDOUBLE_PLUS_SIGN_ABOVEeBELOWbTRIPLE_ACUTE_ACCENT
    bLATIN_SMALL_LETTER_INSULAR_GfRfT:1B00aBALINESE_SIGN_ULU_RICEMdCANDRAcCECEKcSURANGcBISAHbLETTER_AKARAdTEDUNG
    cIKARAdTEDUNGcUKARAdTEDUNGcRA_REPAeTEDUNGcLA_LENGAeTEDUNGcEKARAcAIKARAcOKARAdTEDUNGcKAdMAHAPRANAcGAdGORAcNGAcCA
    dLACAcJAdJERAcNYAcTA_LATIKdMURDA_MAHAPRANAcDA_MURDA_ALPAPRANAeMAHAPRANAcNA_RAMBATcTAdTAWAcDAdMADUcNAcPAdKAPALcBA
    dKEMBANGcMAcYAcRAcLAcWAcSA_SAGAdSAPAcSAcHAbSIGN_REREKANbVOWEL_SIGN_TEDUNGdULUeSARIdSUKUeILUTdRA_REPAfTEDUNG
    dLA_LENGAfTEDUNGdTALINGeREPAeTEDUNGeREPA_TEDUNGdPEPETeTEDUNGbADEG_ADEGbLETTER_KAF_SASAKcKHOT_SASAKcTZIR_SASAK
    cEF_SASAKcVE_SASAKcZAL_SASAKcASYURA_SASAKcARCHAIC_JNYA:1B50bDIGIT_ZEROcONEcTWOcTHREEcFOURcFIVEcSIXcSEVENcEIGHT
    cNINEbPANTIbPAMADAbWINDUbCARIK_PAMUNGKAHcSIKIcPARERENbPAMENENGbMUSICAL_SYMBOL_DONGdDENGdDUNGdDANGeSURANGdDING
    dDAENGdDEUNGdDAINGdDANG_GEDEdCOMBINING_TEGEHeENDEPeKEMPULeKEMPLIeJEGOGANeKEMPUL_WITH_JEGOGANeKEMPLI_WITH_JEGOGAN
    eBENDEeGONGdRIGHT-HAND_OPEN_DUGfDAGeCLOSED_TUKfTAKdLEFT-HAND_OPEN_PANGfPUNGeCLOSED_PLAKfPLUKeOPEN_PING
    bPANTI_LANTANGbPAMADA_LANTANG:1B80aSUNDANESE_SIGN_PANYECEKcPANGLAYARcPANGWISADbLETTER_AcIcUcAEcOcEcEUcKAcQAcGA
    cNGAcCAcJAcZAcNYAcTAcDAcNAcPAcFAcVAcBAcMAcYAcRAcLAcWAcSAcXAcHAbCONSONANT_SIGN_PAMINGKALdPANYAKRAdPANYIKU
    bVOWEL_SIGN_PANGHULUdPANYUKUdPANAELAENGdPANOLONGdPAMEPETdPANEULEUNGbSIGN_PAMAAEHcVIRAMA
    bCONSONANT_SIGN_PASANGAN_MAeWAbLETTER_KHAcSYAbDIGIT_ZEROcONEcTWOcTHREEcFOURcFIVEcSIXcSEVENcEIGHTcNINEbAVAGRAHA
    bLETTER_REUcLEUcBHAcFINAL_KdMaBATAK_LETTER_AcSIMALUNGUN_AcHAcSIMALUNGUN_HAcMANDAILING_HAcBAcKARO_BAcPA
    cSIMALUNGUN_PAcNAcMANDAILING_NAcWAcSIMALUNGUN_WAcPAKPAK_WAcGAcSIMALUNGUN_GAcJAcDAcRAcSIMALUNGUN_RAcMA
    cSIMALUNGUN_MAcSOUTHERN_TAcNORTHERN_TAcSAcSIMALUNGUN_SAcMANDAILING_SAcYAcSIMALUNGUN_YAcNGAcLAcSIMALUNGUN_LAcNYA
    cCAcNDAcMBAcIcUbSIGN_TOMPIbVOWEL_SIGN_EdPAKPAK_EdEEdIdKARO_IdOdKARO_OdUeFOR_SIMALUNGUN_SAbCONSONANT_SIGN_NGdH
    bPANGOLATbPANONGONAN:1BFCbSYMBOL_BINDU_NA_METEKdPINARBORASdJUDULdPANGOLATaLEPCHA_LETTER_KAcKLAcKHAcGAcGLAcNGAcCA
    cCHAcJAcNYAcTAcTHAcDAcNAcPAcPLAcPHAcFAcFLAcBAcBLAcMAcMLAcTSAcTSHAcDZAcYAcRAcLAcHAcHLAcVAcSAcSHAcWAcA
    bSUBJOINED_LETTER_YAdRAbVOWEL_SIGN_AAdIdOdOOdUdUUdEbCONSONANT_SIGN_KdMdLdNdPdRdTdNYIN-DOdKANGbSIGN_RANcNUKTA
    :1C3BbPUNCTUATION_TA-ROLcNYET_THYOOM_TA-ROLcCER-WAcTSHOOK_CER-WAcTSHOOKbDIGIT_ZEROcONEcTWOcTHREEcFOURcFIVEcSIX
    cSEVENcEIGHTcNINE:1C4DbLETTER_TTAcTTHAcDDAaOL_CHIKI_DIGIT_ZEROdONEdTWOdTHREEdFOURdFIVEdSIXdSEVENdEIGHTdNINE
    cLETTER_LAdATdAGdANGdALdLAAdAAKdAAJdAAMdAAWdLIdISdIHdINYdIRdLUdUCdUDdUNNdUYdLEdEPdEDDdENdERRdLOdOTTdOBdOVdOH
    cMU_TTUDDAGcGAAHLAA_TTUDDAAGcMU-GAAHLAA_TTUDDAAGcRELAAcPHAARKAAcAHADcPUNCTUATION_MUCAADdDOUBLE_MUCAAD
    aCYRILLIC_SMALL_LETTER_ROUNDED_VEdLONG-LEGGED_DEdNARROW_OdWIDE_ESdTALL_TEdTHREE-LEGGED_TEdTALL_HARD_SIGNeYAT
    dUNBLENDED_UK:1C90aGEORGIAN_MTAVRULI_CAPITAL_LETTER_ANeBANeGANeDONeENeVINeZENeTANeINeKANeLASeMANeNAReONePAReZHAR
    eRAEeSANeTAReUNePHAReKHAReGHANeQAReSHINeCHINeCANeJILeCILeCHAReXANeJHANeHAEeHEeHIEeWEeHAReHOEeFIeYNeELIFI
    eTURNED_GANeAIN:1CBDeAENeHARD_SIGNeLABIAL_SIGNaSUNDANESE_PUNCTUATION_BINDU_SURYAdPANGLONGdPURNAMAdCAKRA
    dLEU_SATANGAdKA_SATANGAdDA_SATANGAdBA_SATANGA:1CD0aVEDIC_TONE_KARSHANAcSHARAcPRENKHAbSIGN_NIHSHVASA
    cYAJURVEDIC_MIDLINE_SVARITAbTONE_YAJURVEDIC_AGGRAVATED_INDEPENDENT_SVARITAdINDEPENDENT_SVARITA
    dKATHAKA_INDEPENDENT_SVARITAcCANDRA_BELOWcYAJURVEDIC_KATHAKA_INDEPENDENT_SVARITA_SCHROEDERcDOUBLE_SVARITA
    cTRIPLE_SVARITAcKATHAKA_ANUDATTAcDOT_BELOWcTWO_DOTS_BELOWcTHREE_DOTS_BELOWcRIGVEDIC_KASHMIRI_INDEPENDENT_SVARITA
    cATHARVAVEDIC_INDEPENDENT_SVARITAbSIGN_VISARGA_SVARITAdUDATTAcREVERSED_VISARGA_UDATTAcVISARGA_ANUDATTA
    cREVERSED_VISARGA_ANUDATTAcVISARGA_UDATTA_WITH_TAILdANUDATTA_WITH_TAILcANUSVARA_ANTARGOMUKHAdBAHIRGOMUKHA
    dVAMAGOMUKHAeWITH_TAILcTIRYAKcHEXIFORM_LONG_ANUSVARAcLONG_ANUSVARAcRTHANG_LONG_ANUSVARAcANUSVARA_UBHAYATO_MUKHA
    cARDHAVISARGAcROTATED_ARDHAVISARGAbTONE_CANDRA_ABOVEbSIGN_JIHVAMULIYAcUPADHMANIYAcATIKRAMAbTONE_RING_ABOVE
    cDOUBLE_RING_ABOVEbSIGN_DOUBLE_ANUSVARA_ANTARGOMUKHA:1D00aLATIN_LETTER_SMALL_CAPITAL_AeAEbSMALL_LETTER_TURNED_AE
    bLETTER_SMALL_CAPITAL_BARRED_BeCeDeETHeEbSMALL_LETTER_TURNED_OPEN_EeIbLETTER_SMALL_CAPITAL_JeKeL_WITH_STROKEeM
    eREVERSED_NeOeOPEN_ObSMALL_LETTER_SIDEWAYS_OeOPEN_OeO_WITH_STROKEdTURNED_OEbLETTER_SMALL_CAPITAL_OU
    bSMALL_LETTER_TOP_HALF_OdBOTTOM_HALF_ObLETTER_SMALL_CAPITAL_PeREVERSED_ReTURNED_ReTeUbSMALL_LETTER_SIDEWAYS_U
    eDIAERESIZED_UeTURNED_MbLETTER_SMALL_CAPITAL_VeWeZeEZHcVOICED_LARYNGEAL_SPIRANTcAIN
    aGREEK_LETTER_SMALL_CAPITAL_GAMMAeLAMDAePIeRHOePSIaCYRILLIC_LETTER_SMALL_CAPITAL_ELaMODIFIER_LETTER_CAPITAL_AdAE
    dBdBARRED_BdDdEdREVERSED_EdGdHdIdJdKdLdMdNdREVERSED_NdOdOUdPdRdTdUdWcSMALL_AdTURNED_AdALPHAdTURNED_AEdBdDdE
    dSCHWAdOPEN_EdTURNED_OPEN_EdGdTURNED_IdKdMdENGdOdOPEN_OdTOP_HALF_OdBOTTOM_HALF_OdPdTdUdSIDEWAYS_UdTURNED_MdVdAIN
    dBETAdGREEK_GAMMAdDELTAdGREEK_PHIdCHIaLATIN_SUBSCRIPT_SMALL_LETTER_IeReUeVaGREEK_SUBSCRIPT_SMALL_LETTER_BETA
    eGAMMAeRHOePHIeCHIaLATIN_SMALL_LETTER_UEdB_WITH_MIDDLE_TILDEdD_WITH_MIDDLE_TILDEdF_WITH_MIDDLE_TILDE
    dM_WITH_MIDDLE_TILDEdN_WITH_MIDDLE_TILDEdP_WITH_MIDDLE_TILDEdR_WITH_MIDDLE_TILDEfFISHHOOK_AND_MIDDLE_TILDE
    dS_WITH_MIDDLE_TILDEdT_WITH_MIDDLE_TILDEdZ_WITH_MIDDLE_TILDEdTURNED_GaMODIFIER_LETTER_CYRILLIC_EN
    aLATIN_SMALL_LETTER_INSULAR_GdTH_WITH_STRIKETHROUGHcCAPITAL_LETTER_I_WITH_STROKEcLETTER_IOTA_WITH_STROKE
    dP_WITH_STROKEcCAPITAL_LETTER_U_WITH_STROKEcLETTER_UPSILON_WITH_STROKEdB_WITH_PALATAL_HOOKdD_WITH_PALATAL_HOOK
    dF_WITH_PALATAL_HOOKdG_WITH_PALATAL_HOOKdK_WITH_PALATAL_HOOKdL_WITH_PALATAL_HOOKdM_WITH_PALATAL_HOOK
    dN_WITH_PALATAL_HOOKdP_WITH_PALATAL_HOOKdR_WITH_PALATAL_HOOKdS_WITH_PALATAL_HOOKdESH_WITH_PALATAL_HOOK
    dV_WITH_PALATAL_HOOKdX_WITH_PALATAL_HOOKdZ_WITH_PALATAL_HOOKdA_WITH_RETROFLEX_HOOKdALPHA_WITH_RETROFLEX_HOOK
    dD_WITH_HOOK_AND_TAILdE_WITH_RETROFLEX_HOOKdOPEN_E_WITH_RETROFLEX_HOOKdREVERSED_OPEN_E_WITH_RETROFLEX_HOOK
    dSCHWA_WITH_RETROFLEX_HOOKdI_WITH_RETROFLEX_HOOKdOPEN_O_WITH_RETROFLEX_HOOKdESH_WITH_RETROFLEX_HOOK
    dU_WITH_RETROFLEX_HOOKdEZH_WITH_RETROFLEX_HOOKaMODIFIER_LETTER_SMALL_TURNED_ALPHAdCeWITH_CURLdETH
    dREVERSED_OPEN_EdFdDOTLESS_J_WITH_STROKEdSCRIPT_GdTURNED_HdI_WITH_STROKEdIOTAdCAPITAL_IfWITH_STROKE
    dJ_WITH_CROSSED-TAILdL_WITH_RETROFLEX_HOOKfPALATAL_HOOKdCAPITAL_LdM_WITH_HOOKdTURNED_M_WITH_LONG_LEG
    dN_WITH_LEFT_HOOKfRETROFLEX_HOOKdCAPITAL_NdBARRED_OdPHIdS_WITH_HOOKdESHdT_WITH_PALATAL_HOOKdU_BARdUPSILON
    dCAPITAL_UdV_WITH_HOOKdTURNED_VdZeWITH_RETROFLEX_HOOKfCURLdEZHdTHETAaCOMBINING_DOTTED_GRAVE_ACCENTcACUTE_ACCENT
    bSNAKE_BELOWbSUSPENSION_MARKbMACRON-ACUTEbGRAVE-MACRONbMACRON-GRAVEbACUTE-MACRONbGRAVE-ACUTE-GRAVE
    bACUTE-GRAVE-ACUTEbLATIN_SMALL_LETTER_R_BELOWbBREVE-MACRONbMACRON-BREVEbDOUBLE_CIRCUMFLEX_ABOVEbOGONEK_ABOVE
    bZIGZAG_BELOWbIS_BELOWbUR_ABOVEbUS_ABOVEbLATIN_SMALL_LETTER_FLATTENED_OPEN_A_ABOVEeAEeAOeAVeC_CEDILLAeINSULAR_D
    eETHeGcLETTER_SMALL_CAPITAL_GcSMALL_LETTER_KeLcLETTER_SMALL_CAPITAL_LfMcSMALL_LETTER_NcLETTER_SMALL_CAPITAL_NfR
    cSMALL_LETTER_R_ROTUNDAeSeLONG_SeZeALPHAeBeBETAeSCHWAeFeL_WITH_DOUBLE_MIDDLE_TILDE
    eO_WITH_LIGHT_CENTRALIZATION_STROKEePeESHeU_WITH_LIGHT_CENTRALIZATION_STROKEeWeA_WITH_DIAERESISeO_WITH_DIAERESIS
    eU_WITH_DIAERESISbUP_TACK_ABOVEbKAVYKA_ABOVE_RIGHTdLEFTbDOT_ABOVE_LEFTbWIDE_INVERTED_BRIDGE_BELOWbDOT_BELOW_LEFT
    bDELETION_MARKbDOUBLE_INVERTED_BREVE_BELOWbALMOST_EQUAL_TO_BELOWbLEFT_ARROWHEAD_ABOVE
    bRIGHT_ARROWHEAD_AND_DOWN_ARROWHEAD_BELOWaLATIN_CAPITAL_LETTER_A_WITH_RING_BELOWbSMALL_LETTER_A_WITH_RING_BELOW
    bCAPITAL_LETTER_B_WITH_DOT_ABOVEbSMALL_LETTER_B_WITH_DOT_ABOVEbCAPITAL_LETTER_B_WITH_DOT_BELOW
    bSMALL_LETTER_B_WITH_DOT_BELOWbCAPITAL_LETTER_B_WITH_LINE_BELOWbSMALL_LETTER_B_WITH_LINE_BELOW
    bCAPITAL_LETTER_C_WITH_CEDILLA_AND_ACUTEbSMALL_LETTER_C_WITH_CEDILLA_AND_ACUTEbCAPITAL_LETTER_D_WITH_DOT_ABOVE
    bSMALL_LETTER_D_WITH_DOT_ABOVEbCAPITAL_LETTER_D_WITH_DOT_BELOWbSMALL_LETTER_D_WITH_DOT_BELOW
    bCAPITAL_LETTER_D_WITH_LINE_BELOWbSMALL_LETTER_D_WITH_LINE_BELOWbCAPITAL_LETTER_D_WITH_CEDILLA
    bSMALL_LETTER_D_WITH_CEDILLAbCAPITAL_LETTER_D_WITH_CIRCUMFLEX_BELOWbSMALL_LETTER_D_WITH_CIRCUMFLEX_BELOW
    bCAPITAL_LETTER_E_WITH_MACRON_AND_GRAVEbSMALL_LETTER_E_WITH_MACRON_AND_GRAVE
    bCAPITAL_LETTER_E_WITH_MACRON_AND_ACUTEbSMALL_LETTER_E_WITH_MACRON_AND_ACUTE
    bCAPITAL_LETTER_E_WITH_CIRCUMFLEX_BELOWbSMALL_LETTER_E_WITH_CIRCUMFLEX_BELOWbCAPITAL_LETTER_E_WITH_TILDE_BELOW
    bSMALL_LETTER_E_WITH_TILDE_BELOWbCAPITAL_LETTER_E_WITH_CEDILLA_AND_BREVEbSMALL_LETTER_E_WITH_CEDILLA_AND_BREVE
    bCAPITAL_LETTER_F_WITH_DOT_ABOVEbSMALL_LETTER_F_WITH_DOT_ABOVEbCAPITAL_LETTER_G_WITH_MACRON
    bSMALL_LETTER_G_WITH_MACRONbCAPITAL_LETTER_H_WITH_DOT_ABOVEbSMALL_LETTER_H_WITH_DOT_ABOVE
    bCAPITAL_LETTER_H_WITH_DOT_BELOWbSMALL_LETTER_H_WITH_DOT_BELOWbCAPITAL_LETTER_H_WITH_DIAERESIS
    bSMALL_LETTER_H_WITH_DIAERESISbCAPITAL_LETTER_H_WITH_CEDILLAbSMALL_LETTER_H_WITH_CEDILLA
    bCAPITAL_LETTER_H_WITH_BREVE_BELOWbSMALL_LETTER_H_WITH_BREVE_BELOWbCAPITAL_LETTER_I_WITH_TILDE_BELOW
    bSMALL_LETTER_I_WITH_TILDE_BELOWbCAPITAL_LETTER_I_WITH_DIAERESIS_AND_ACUTE
    bSMALL_LETTER_I_WITH_DIAERESIS_AND_ACUTEbCAPITAL_LETTER_K_WITH_ACUTEbSMALL_LETTER_K_WITH_ACUTE
    bCAPITAL_LETTER_K_WITH_DOT_BELOWbSMALL_LETTER_K_WITH_DOT_BELOWbCAPITAL_LETTER_K_WITH_LINE_BELOW
    bSMALL_LETTER_K_WITH_LINE_BELOWbCAPITAL_LETTER_L_WITH_DOT_BELOWbSMALL_LETTER_L_WITH_DOT_BELOW
    bCAPITAL_LETTER_L_WITH_DOT_BELOW_AND_MACRONbSMALL_LETTER_L_WITH_DOT_BELOW_AND_MACRON
    bCAPITAL_LETTER_L_WITH_LINE_BELOWbSMALL_LETTER_L_WITH_LINE_BELOWbCAPITAL_LETTER_L_WITH_CIRCUMFLEX_BELOW
    bSMALL_LETTER_L_WITH_CIRCUMFLEX_BELOWbCAPITAL_LETTER_M_WITH_ACUTEbSMALL_LETTER_M_WITH_ACUTE
    bCAPITAL_LETTER_M_WITH_DOT_ABOVEbSMALL_LETTER_M_WITH_DOT_ABOVEbCAPITAL_LETTER_M_WITH_DOT_BELOW
    bSMALL_LETTER_M_WITH_DOT_BELOWbCAPITAL_LETTER_N_WITH_DOT_ABOVEbSMALL_LETTER_N_WITH_DOT_ABOVE
    bCAPITAL_LETTER_N_WITH_DOT_BELOWbSMALL_LETTER_N_WITH_DOT_BELOWbCAPITAL_LETTER_N_WITH_LINE_BELOW
    bSMALL_LETTER_N_WITH_LINE_BELOWbCAPITAL_LETTER_N_WITH_CIRCUMFLEX_BELOWbSMALL_LETTER_N_WITH_CIRCUMFLEX_BELOW
    bCAPITAL_LETTER_O_WITH_TILDE_AND_ACUTEbSMALL_LETTER_O_WITH_TILDE_AND_ACUTE
    bCAPITAL_LETTER_O_WITH_TILDE_AND_DIAERESISbSMALL_LETTER_O_WITH_TILDE_AND_DIAERESIS
    bCAPITAL_LETTER_O_WITH_MACRON_AND_GRAVEbSMALL_LETTER_O_WITH_MACRON_AND_GRAVE
    bCAPITAL_LETTER_O_WITH_MACRON_AND_ACUTEbSMALL_LETTER_O_WITH_MACRON_AND_ACUTEbCAPITAL_LETTER_P_WITH_ACUTE
    bSMALL_LETTER_P_WITH_ACUTEbCAPITAL_LETTER_P_WITH_DOT_ABOVEbSMALL_LETTER_P_WITH_DOT_ABOVE
    bCAPITAL_LETTER_R_WITH_DOT_ABOVEbSMALL_LETTER_R_WITH_DOT_ABOVEbCAPITAL_LETTER_R_WITH_DOT_BELOW
    bSMALL_LETTER_R_WITH_DOT_BELOWbCAPITAL_LETTER_R_WITH_DOT_BELOW_AND_MACRON
    bSMALL_LETTER_R_WITH_DOT_BELOW_AND_MACRONbCAPITAL_LETTER_R_WITH_LINE_BELOWbSMALL_LETTER_R_WITH_LINE_BELOW
    bCAPITAL_LETTER_S_WITH_DOT_ABOVEbSMALL_LETTER_S_WITH_DOT_ABOVEbCAPITAL_LETTER_S_WITH_DOT_BELOW
    bSMALL_LETTER_S_WITH_DOT_BELOWbCAPITAL_LETTER_S_WITH_ACUTE_AND_DOT_ABOVEbSMALL_LETTER_S_WITH_ACUTE_AND_DOT_ABOVE
    bCAPITAL_LETTER_S_WITH_CARON_AND_DOT_ABOVEbSMALL_LETTER_S_WITH_CARON_AND_DOT_ABOVE
    bCAPITAL_LETTER_S_WITH_DOT_BELOW_AND_DOT_ABOVEbSMALL_LETTER_S_WITH_DOT_BELOW_AND_DOT_ABOVE
    bCAPITAL_LETTER_T_WITH_DOT_ABOVEbSMALL_LETTER_T_WITH_DOT_ABOVEbCAPITAL_LETTER_T_WITH_DOT_BELOW
    bSMALL_LETTER_T_WITH_DOT_BELOWbCAPITAL_LETTER_T_WITH_LINE_BELOWbSMALL_LETTER_T_WITH_LINE_BELOW
    bCAPITAL_LETTER_T_WITH_CIRCUMFLEX_BELOWbSMALL_LETTER_T_WITH_CIRCUMFLEX_BELOW
    bCAPITAL_LETTER_U_WITH_DIAERESIS_BELOWbSMALL_LETTER_U_WITH_DIAERESIS_BELOWbCAPITAL_LETTER_U_WITH_TILDE_BELOW
    bSMALL_LETTER_U_WITH_TILDE_BELOWbCAPITAL_LETTER_U_WITH_CIRCUMFLEX_BELOWbSMALL_LETTER_U_WITH_CIRCUMFLEX_BELOW
    bCAPITAL_LETTER_U_WITH_TILDE_AND_ACUTEbSMALL_LETTER_U_WITH_TILDE_AND_ACUTE
    bCAPITAL_LETTER_U_WITH_MACRON_AND_DIAERESISbSMALL_LETTER_U_WITH_MACRON_AND_DIAERESISbCAPITAL_LETTER_V_WITH_TILDE
    bSMALL_LETTER_V_WITH_TILDEbCAPITAL_LETTER_V_WITH_DOT_BELOWbSMALL_LETTER_V_WITH_DOT_BELOW
    bCAPITAL_LETTER_W_WITH_GRAVEbSMALL_LETTER_W_WITH_GRAVEbCAPITAL_LETTER_W_WITH_ACUTEbSMALL_LETTER_W_WITH_ACUTE
    bCAPITAL_LETTER_W_WITH_DIAERESISbSMALL_LETTER_W_WITH_DIAERESISbCAPITAL_LETTER_W_WITH_DOT_ABOVE
    bSMALL_LETTER_W_WITH_DOT_ABOVEbCAPITAL_LETTER_W_WITH_DOT_BELOWbSMALL_LETTER_W_WITH_DOT_BELOW
    bCAPITAL_LETTER_X_WITH_DOT_ABOVEbSMALL_LETTER_X_WITH_DOT_ABOVEbCAPITAL_LETTER_X_WITH_DIAERESIS
    bSMALL_LETTER_X_WITH_DIAERESISbCAPITAL_LETTER_Y_WITH_DOT_ABOVEbSMALL_LETTER_Y_WITH_DOT_ABOVE
    bCAPITAL_LETTER_Z_WITH_CIRCUMFLEXbSMALL_LETTER_Z_WITH_CIRCUMFLEXbCAPITAL_LETTER_Z_WITH_DOT_BELOW
    bSMALL_LETTER_Z_WITH_DOT_BELOWbCAPITAL_LETTER_Z_WITH_LINE_BELOWbSMALL_LETTER_Z_WITH_LINE_BELOWdH_WITH_LINE_BELOW
    dT_WITH_DIAERESISdW_WITH_RING_ABOVEdY_WITH_RING_ABOVEdA_WITH_RIGHT_HALF_RINGdLONG_S_WITH_DOT_ABOVE
    gDIAGONAL_STROKEgHIGH_STROKEbCAPITAL_LETTER_SHARP_SbSMALL_LETTER_DELTAbCAPITAL_LETTER_A_WITH_DOT_BELOW
    bSMALL_LETTER_A_WITH_DOT_BELOWbCAPITAL_LETTER_A_WITH_HOOK_ABOVEbSMALL_LETTER_A_WITH_HOOK_ABOVE
    bCAPITAL_LETTER_A_WITH_CIRCUMFLEX_AND_ACUTEbSMALL_LETTER_A_WITH_CIRCUMFLEX_AND_ACUTE
    bCAPITAL_LETTER_A_WITH_CIRCUMFLEX_AND_GRAVEbSMALL_LETTER_A_WITH_CIRCUMFLEX_AND_GRAVE
    bCAPITAL_LETTER_A_WITH_CIRCUMFLEX_AND_HOOK_ABOVEbSMALL_LETTER_A_WITH_CIRCUMFLEX_AND_HOOK_ABOVE
    bCAPITAL_LETTER_A_WITH_CIRCUMFLEX_AND_TILDEbSMALL_LETTER_A_WITH_CIRCUMFLEX_AND_TILDE
    bCAPITAL_LETTER_A_WITH_CIRCUMFLEX_AND_DOT_BELOWbSMALL_LETTER_A_WITH_CIRCUMFLEX_AND_DOT_BELOW
    bCAPITAL_LETTER_A_WITH_BREVE_AND_ACUTEbSMALL_LETTER_A_WITH_BREVE_AND_ACUTEbCAPITAL_LETTER_A_WITH_BREVE_AND_GRAVE
    bSMALL_LETTER_A_WITH_BREVE_AND_GRAVEbCAPITAL_LETTER_A_WITH_BREVE_AND_HOOK_ABOVE
    bSMALL_LETTER_A_WITH_BREVE_AND_HOOK_ABOVEbCAPITAL_LETTER_A_WITH_BREVE_AND_TILDE
    bSMALL_LETTER_A_WITH_BREVE_AND_TILDEbCAPITAL_LETTER_A_WITH_BREVE_AND_DOT_BELOW
    bSMALL_LETTER_A_WITH_BREVE_AND_DOT_BELOWbCAPITAL_LETTER_E_WITH_DOT_BELOWbSMALL_LETTER_E_WITH_DOT_BELOW
    bCAPITAL_LETTER_E_WITH_HOOK_ABOVEbSMALL_LETTER_E_WITH_HOOK_ABOVEbCAPITAL_LETTER_E_WITH_TILDE
    bSMALL_LETTER_E_WITH_TILDEbCAPITAL_LETTER_E_WITH_CIRCUMFLEX_AND_ACUTEbSMALL_LETTER_E_WITH_CIRCUMFLEX_AND_ACUTE
    bCAPITAL_LETTER_E_WITH_CIRCUMFLEX_AND_GRAVEbSMALL_LETTER_E_WITH_CIRCUMFLEX_AND_GRAVE
    bCAPITAL_LETTER_E_WITH_CIRCUMFLEX_AND_HOOK_ABOVEbSMALL_LETTER_E_WITH_CIRCUMFLEX_AND_HOOK_ABOVE
    bCAPITAL_LETTER_E_WITH_CIRCUMFLEX_AND_TILDEbSMALL_LETTER_E_WITH_CIRCUMFLEX_AND_TILDE
    bCAPITAL_LETTER_E_WITH_CIRCUMFLEX_AND_DOT_BELOWbSMALL_LETTER_E_WITH_CIRCUMFLEX_AND_DOT_BELOW
    bCAPITAL_LETTER_I_WITH_HOOK_ABOVEbSMALL_LETTER_I_WITH_HOOK_ABOVEbCAPITAL_LETTER_I_WITH_DOT_BELOW
    bSMALL_LETTER_I_WITH_DOT_BELOWbCAPITAL_LETTER_O_WITH_DOT_BELOWbSMALL_LETTER_O_WITH_DOT_BELOW
    bCAPITAL_LETTER_O_WITH_HOOK_ABOVEbSMALL_LETTER_O_WITH_HOOK_ABOVEbCAPITAL_LETTER_O_WITH_CIRCUMFLEX_AND_ACUTE
    bSMALL_LETTER_O_WITH_CIRCUMFLEX_AND_ACUTEbCAPITAL_LETTER_O_WITH_CIRCUMFLEX_AND_GRAVE
    bSMALL_LETTER_O_WITH_CIRCUMFLEX_AND_GRAVEbCAPITAL_LETTER_O_WITH_CIRCUMFLEX_AND_HOOK_ABOVE
    bSMALL_LETTER_O_WITH_CIRCUMFLEX_AND_HOOK_ABOVEbCAPITAL_LETTER_O_WITH_CIRCUMFLEX_AND_TILDE
    bSMALL_LETTER_O_WITH_CIRCUMFLEX_AND_TILDEbCAPITAL_LETTER_O_WITH_CIRCUMFLEX_AND_DOT_BELOW
    bSMALL_LETTER_O_WITH_CIRCUMFLEX_AND_DOT_BELOWbCAPITAL_LETTER_O_WITH_HORN_AND_ACUTE
    bSMALL_LETTER_O_WITH_HORN_AND_ACUTEbCAPITAL_LETTER_O_WITH_HORN_AND_GRAVEbSMALL_LETTER_O_WITH_HORN_AND_GRAVE
    bCAPITAL_LETTER_O_WITH_HORN_AND_HOOK_ABOVEbSMALL_LETTER_O_WITH_HORN_AND_HOOK_ABOVE
    bCAPITAL_LETTER_O_WITH_HORN_AND_TILDEbSMALL_LETTER_O_WITH_HORN_AND_TILDE
    bCAPITAL_LETTER_O_WITH_HORN_AND_DOT_BELOWbSMALL_LETTER_O_WITH_HORN_AND_DOT_BELOWbCAPITAL_LETTER_U_WITH_DOT_BELOW
    bSMALL_LETTER_U_WITH_DOT_BELOWbCAPITAL_LETTER_U_WITH_HOOK_ABOVEbSMALL_LETTER_U_WITH_HOOK_ABOVE
    bCAPITAL_LETTER_U_WITH_HORN_AND_ACUTEbSMALL_LETTER_U_WITH_HORN_AND_ACUTEbCAPITAL_LETTER_U_WITH_HORN_AND_GRAVE
    bSMALL_LETTER_U_WITH_HORN_AND_GRAVEbCAPITAL_LETTER_U_WITH_HORN_AND_HOOK_ABOVE
    bSMALL_LETTER_U_WITH_HORN_AND_HOOK_ABOVEbCAPITAL_LETTER_U_WITH_HORN_AND_TILDEbSMALL_LETTER_U_WITH_HORN_AND_TILDE
    bCAPITAL_LETTER_U_WITH_HORN_AND_DOT_BELOWbSMALL_LETTER_U_WITH_HORN_AND_DOT_BELOWbCAPITAL_LETTER_Y_WITH_GRAVE
    bSMALL_LETTER_Y_WITH_GRAVEbCAPITAL_LETTER_Y_WITH_DOT_BELOWbSMALL_LETTER_Y_WITH_DOT_BELOW
    bCAPITAL_LETTER_Y_WITH_HOOK_ABOVEbSMALL_LETTER_Y_WITH_HOOK_ABOVEbCAPITAL_LETTER_Y_WITH_TILDE
    bSMALL_LETTER_Y_WITH_TILDEbCAPITAL_LETTER_MIDDLE-WELSH_LLbSMALL_LETTER_MIDDLE-WELSH_LL
    bCAPITAL_LETTER_MIDDLE-WELSH_VbSMALL_LETTER_MIDDLE-WELSH_VbCAPITAL_LETTER_Y_WITH_LOOPbSMALL_LETTER_Y_WITH_LOOP
    aGREEK_SMALL_LETTER_ALPHA_WITH_PSILIfDASIAfPSILI_AND_VARIAfDASIA_AND_VARIAfPSILI_AND_OXIAfDASIA_AND_OXIA
    fPSILI_AND_PERISPOMENIfDASIA_AND_PERISPOMENIbCAPITAL_LETTER_ALPHA_WITH_PSILIfDASIAfPSILI_AND_VARIA
    fDASIA_AND_VARIAfPSILI_AND_OXIAfDASIA_AND_OXIAfPSILI_AND_PERISPOMENIfDASIA_AND_PERISPOMENI
    bSMALL_LETTER_EPSILON_WITH_PSILIfDASIAfPSILI_AND_VARIAfDASIA_AND_VARIAfPSILI_AND_OXIAfDASIA_AND_OXIA
    :1F18bCAPITAL_LETTER_EPSILON_WITH_PSILIfDASIAfPSILI_AND_VARIAfDASIA_AND_VARIAfPSILI_AND_OXIAfDASIA_AND_OXIA
    :1F20bSMALL_LETTER_ETA_WITH_PSILIfDASIAfPSILI_AND_VARIAfDASIA_AND_VARIAfPSILI_AND_OXIAfDASIA_AND_OXIA
    fPSILI_AND_PERISPOMENIfDASIA_AND_PERISPOMENIbCAPITAL_LETTER_ETA_WITH_PSILIfDASIAfPSILI_AND_VARIAfDASIA_AND_VARIA
    fPSILI_AND_OXIAfDASIA_AND_OXIAfPSILI_AND_PERISPOMENIfDASIA_AND_PERISPOMENIbSMALL_LETTER_IOTA_WITH_PSILIfDASIA
    fPSILI_AND_VARIAfDASIA_AND_VARIAfPSILI_AND_OXIAfDASIA_AND_OXIAfPSILI_AND_PERISPOMENIfDASIA_AND_PERISPOMENI
    bCAPITAL_LETTER_IOTA_WITH_PSILIfDASIAfPSILI_AND_VARIAfDASIA_AND_VARIAfPSILI_AND_OXIAfDASIA_AND_OXIA
    fPSILI_AND_PERISPOMENIfDASIA_AND_PERISPOMENIbSMALL_LETTER_OMICRON_WITH_PSILIfDASIAfPSILI_AND_VARIA
    fDASIA_AND_VARIAfPSILI_AND_OXIAfDASIA_AND_OXIA:1F48bCAPITAL_LETTER_OMICRON_WITH_PSILIfDASIAfPSILI_AND_VARIA
    fDASIA_AND_VARIAfPSILI_AND_OXIAfDASIA_AND_OXIA:1F50bSMALL_LETTER_UPSILON_WITH_PSILIfDASIAfPSILI_AND_VARIA
    fDASIA_AND_VARIAfPSILI_AND_OXIAfDASIA_AND_OXIAfPSILI_AND_PERISPOMENIfDASIA_AND_PERISPOMENI
    :1F59bCAPITAL_LETTER_UPSILON_WITH_DASIA:1F5BgAND_VARIA:1F5DhOXIA:1F5FhPERISPOMENIbSMALL_LETTER_OMEGA_WITH_PSILI
    fDASIAfPSILI_AND_VARIAfDASIA_AND_VARIAfPSILI_AND_OXIAfDASIA_AND_OXIAfPSILI_AND_PERISPOMENIfDASIA_AND_PERISPOMENI
    bCAPITAL_LETTER_OMEGA_WITH_PSILIfDASIAfPSILI_AND_VARIAfDASIA_AND_VARIAfPSILI_AND_OXIAfDASIA_AND_OXIA
    fPSILI_AND_PERISPOMENIfDASIA_AND_PERISPOMENIbSMALL_LETTER_ALPHA_WITH_VARIAfOXIAdEPSILON_WITH_VARIAfOXIA
    dETA_WITH_VARIAfOXIAdIOTA_WITH_VARIAfOXIAdOMICRON_WITH_VARIAfOXIAdUPSILON_WITH_VARIAfOXIAdOMEGA_WITH_VARIAfOXIA
    :1F80dALPHA_WITH_PSILI_AND_YPOGEGRAMMENIfDASIA_AND_YPOGEGRAMMENIfPSILI_AND_VARIA_AND_YPOGEGRAMMENI
    fDASIA_AND_VARIA_AND_YPOGEGRAMMENIfPSILI_AND_OXIA_AND_YPOGEGRAMMENIfDASIA_AND_OXIA_AND_YPOGEGRAMMENI
    fPSILI_AND_PERISPOMENI_AND_YPOGEGRAMMENIfDASIA_AND_PERISPOMENI_AND_YPOGEGRAMMENI
    bCAPITAL_LETTER_ALPHA_WITH_PSILI_AND_PROSGEGRAMMENIfDASIA_AND_PROSGEGRAMMENIfPSILI_AND_VARIA_AND_PROSGEGRAMMENI
    fDASIA_AND_VARIA_AND_PROSGEGRAMMENIfPSILI_AND_OXIA_AND_PROSGEGRAMMENIfDASIA_AND_OXIA_AND_PROSGEGRAMMENI
    fPSILI_AND_PERISPOMENI_AND_PROSGEGRAMMENIfDASIA_AND_PERISPOMENI_AND_PROSGEGRAMMENI
    bSMALL_LETTER_ETA_WITH_PSILI_AND_YPOGEGRAMMENIfDASIA_AND_YPOGEGRAMMENIfPSILI_AND_VARIA_AND_YPOGEGRAMMENI
    fDASIA_AND_VARIA_AND_YPOGEGRAMMENIfPSILI_AND_OXIA_AND_YPOGEGRAMMENIfDASIA_AND_OXIA_AND_YPOGEGRAMMENI
    fPSILI_AND_PERISPOMENI_AND_YPOGEGRAMMENIfDASIA_AND_PERISPOMENI_AND_YPOGEGRAMMENI
    bCAPITAL_LETTER_ETA_WITH_PSILI_AND_PROSGEGRAMMENIfDASIA_AND_PROSGEGRAMMENIfPSILI_AND_VARIA_AND_PROSGEGRAMMENI
    fDASIA_AND_VARIA_AND_PROSGEGRAMMENIfPSILI_AND_OXIA_AND_PROSGEGRAMMENIfDASIA_AND_OXIA_AND_PROSGEGRAMMENI
    fPSILI_AND_PERISPOMENI_AND_PROSGEGRAMMENIfDASIA_AND_PERISPOMENI_AND_PROSGEGRAMMENI
    bSMALL_LETTER_OMEGA_WITH_PSILI_AND_YPOGEGRAMMENIfDASIA_AND_YPOGEGRAMMENIfPSILI_AND_VARIA_AND_YPOGEGRAMMENI
    fDASIA_AND_VARIA_AND_YPOGEGRAMMENIfPSILI_AND_OXIA_AND_YPOGEGRAMMENIfDASIA_AND_OXIA_AND_YPOGEGRAMMENI
    fPSILI_AND_PERISPOMENI_AND_YPOGEGRAMMENIfDASIA_AND_PERISPOMENI_AND_YPOGEGRAMMENI
    bCAPITAL_LETTER_OMEGA_WITH_PSILI_AND_PROSGEGRAMMENIfDASIA_AND_PROSGEGRAMMENIfPSILI_AND_VARIA_AND_PROSGEGRAMMENI
    fDASIA_AND_VARIA_AND_PROSGEGRAMMENIfPSILI_AND_OXIA_AND_PROSGEGRAMMENIfDASIA_AND_OXIA_AND_PROSGEGRAMMENI
    fPSILI_AND_PERISPOMENI_AND_PROSGEGRAMMENIfDASIA_AND_PERISPOMENI_AND_PROSGEGRAMMENI
    bSMALL_LETTER_ALPHA_WITH_VRACHYfMACRONfVARIA_AND_YPOGEGRAMMENIfYPOGEGRAMMENIfOXIA_AND_YPOGEGRAMMENI
    :1FB6fPERISPOMENIgAND_YPOGEGRAMMENIbCAPITAL_LETTER_ALPHA_WITH_VRACHYfMACRONfVARIAfOXIAfPROSGEGRAMMENIbKORONIS
    bPROSGEGRAMMENIbPSILIbPERISPOMENIbDIALYTIKA_AND_PERISPOMENIbSMALL_LETTER_ETA_WITH_VARIA_AND_YPOGEGRAMMENI
    fYPOGEGRAMMENIfOXIA_AND_YPOGEGRAMMENI:1FC6fPERISPOMENIgAND_YPOGEGRAMMENIbCAPITAL_LETTER_EPSILON_WITH_VARIAfOXIA
    dETA_WITH_VARIAfOXIAfPROSGEGRAMMENIbPSILI_AND_VARIAdOXIAdPERISPOMENIbSMALL_LETTER_IOTA_WITH_VRACHYfMACRON
    fDIALYTIKA_AND_VARIAhOXIA:1FD6fPERISPOMENIfDIALYTIKA_AND_PERISPOMENIbCAPITAL_LETTER_IOTA_WITH_VRACHYfMACRON
    fVARIAfOXIA:1FDDbDASIA_AND_VARIAdOXIAdPERISPOMENIbSMALL_LETTER_UPSILON_WITH_VRACHYfMACRONfDIALYTIKA_AND_VARIA
    hOXIAdRHO_WITH_PSILIfDASIAdUPSILON_WITH_PERISPOMENIfDIALYTIKA_AND_PERISPOMENIbCAPITAL_LETTER_UPSILON_WITH_VRACHY
    fMACRONfVARIAfOXIAdRHO_WITH_DASIAbDIALYTIKA_AND_VARIAdOXIAbVARIA
    :1FF2bSMALL_LETTER_OMEGA_WITH_VARIA_AND_YPOGEGRAMMENIfYPOGEGRAMMENIfOXIA_AND_YPOGEGRAMMENI:1FF6fPERISPOMENI
    gAND_YPOGEGRAMMENIbCAPITAL_LETTER_OMICRON_WITH_VARIAfOXIAdOMEGA_WITH_VARIAfOXIAfPROSGEGRAMMENIbOXIAbDASIA"

end NullContract.CharName
